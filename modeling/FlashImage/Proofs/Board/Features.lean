import FlashImage.Board.Document
import FlashImage.Proofs.Board.Acceptance
import FlashImage.Proofs.Board.Copies

/-!
What the features of a board do to its layout.

With all features but the one for stage 1B, a board has every entry that it can have. With fewer
features it has the same containers, and their regions are some of these in the same order. So the
layouts for two sets of features are compared by way of the two full ones, which differ in nothing
but the codec of stage 1B. Which entries are there depends on the optional sizes too. A board that
has been read has those that its features need.
-/

set_option autoImplicit false
set_option relaxedAutoImplicit false

namespace FlashImage

section

variable {α β κ : Type}

private theorem filter_mem_of_sublist [DecidableEq κ] {l all : List κ} (nodup : all.Nodup)
    (h : l.Sublist all) : all.filter (· ∈ l) = l := by
  have hself : l.filter (· ∈ l) = l := List.filter_eq_self.2 fun _ ha => decide_eq_true ha
  have hsub : l.Sublist (all.filter (· ∈ l)) := by
    have hfilter := h.filter (· ∈ l)
    rwa [hself] at hfilter
  refine (hsub.eq_of_length_le ?_).symm
  refine (List.subperm_of_subset (nodup.filter _) fun a ha => ?_).length_le
  exact of_decide_eq_true (List.mem_filter.1 ha).2

private theorem filter_mem_comm [DecidableEq κ] {l l' all : List κ} (nodup : all.Nodup)
    (h : l.Sublist all)
    (h' : l'.Sublist all) : l.filter (· ∈ l') = l'.filter (· ∈ l) := by
  conv_lhs => rw [← filter_mem_of_sublist nodup h]
  conv_rhs => rw [← filter_mem_of_sublist nodup h']
  rw [List.filter_filter, List.filter_filter]
  exact List.filter_congr fun a _ => Bool.and_comm _ _

private theorem exists_of_forall₂ {R : α → β → Prop} {l : List α} {l' : List β}
    (h : List.Forall₂ R l l') :
    ∀ a ∈ l, ∃ b ∈ l', R a b := by
  induction h with
  | nil => exact List.forall_mem_nil _
  | cons hfirst _ ih =>
    refine List.forall_mem_cons.2 ⟨⟨_, List.mem_cons_self, hfirst⟩, fun a ha => ?_⟩
    obtain ⟨b, hb, hrel⟩ := ih a ha
    exact ⟨b, List.mem_cons_of_mem _ hb, hrel⟩

private theorem rel_of_key {R : α → β → Prop} {key : α → κ} {key' : β → κ} {l : List α}
    {l' : List β}
    (h : List.Forall₂ R l l') (keys : ∀ a b, R a b → key a = key' b) (nodup : (l.map key).Nodup)
    {a : α} {b : β} (ha : a ∈ l) (hb : b ∈ l') (hkey : key a = key' b) : R a b := by
  have hflip : List.Forall₂ (flip R) l' l := .flip h
  obtain ⟨a', ha', hrel⟩ := exists_of_forall₂ hflip b hb
  have hsame : key a' = key a := (keys a' b hrel).trans hkey.symm
  obtain rfl : a' = a := List.inj_on_of_nodup_map nodup ha' ha hsame
  exact hrel

end

/-- The features with which a board has every entry that it can have, stage 1B as it is. -/
def FeatureSet.full (f : FeatureSet) : FeatureSet := ⟨f.stage1bInPlace, true, true, true⟩

namespace LayoutTree

variable {t t' : LayoutTree} {cs : List Container}

private theorem header_of_add {c : Container} (h : t.add c = .ok t') :
    t'.name = t.name ∧ t'.padByte = t.padByte := by
  unfold add at h
  split at h
  · cases h
  · cases h
    exact ⟨rfl, rfl⟩

private theorem header_of_addAll (h : t.addAll cs = .ok t') :
    t'.name = t.name ∧ t'.padByte = t.padByte := by
  induction cs generalizing t with
  | nil =>
    cases h
    exact ⟨rfl, rfl⟩
  | cons c rest ih =>
    rw [addAll] at h
    cases hadd : t.add c with
    | error e => simp [hadd] at h
    | ok t₁ =>
      simp only [hadd] at h
      obtain ⟨hname, hpad⟩ := ih h
      obtain ⟨hname₁, hpad₁⟩ := header_of_add hadd
      exact ⟨hname.trans hname₁, hpad.trans hpad₁⟩

end LayoutTree

namespace Board

variable {b : Board} {t t' : LayoutTree} {f g : FeatureSet}

def withFeatures (b : Board) (f : FeatureSet) : Board := { b with features := f }

/-- The regions with stage 1B. -/
def stage1bNames : List String := ["STAGE1B.fd", "STAGE1B_A.fd", "STAGE1B_B.fd"]

/-- Two regions are one entry of a board with features of two kinds. Only stage 1B is compressed or
not, and only if it runs in place in one case and not in the other. -/
structure SameEntry (f g : FeatureSet) (r r' : Region) : Prop where
  name : r.name = r'.name
  source : r.source = r'.source
  size : r.size = r'.size
  policy : r.policy = r'.policy
  position : r.position = r'.position
  codec : r.codec ≠ r'.codec → r.name ∈ stage1bNames ∧ f.stage1bInPlace ≠ g.stage1bInPlace

/-- Two layouts of a board with features of two kinds differ in whole entries only. -/
structure SameButEntries (f g : FeatureSet) (t t' : LayoutTree) : Prop where
  name : t.name = t'.name
  blockSize : t.blockSize = t'.blockSize
  padByte : t.padByte = t'.padByte
  names : t.names = t'.names
  entry : ∀ c ∈ t.containers, ∀ c' ∈ t'.containers, c.name = c'.name →
    ∀ r ∈ c.regions, ∀ r' ∈ c'.regions, r.name = r'.name → SameEntry f g r r'
  order : ∀ c ∈ t.containers, ∀ c' ∈ t'.containers, c.name = c'.name →
    (c.regions.map (·.name)).filter (· ∈ c'.regions.map (·.name)) =
      (c'.regions.map (·.name)).filter (· ∈ c.regions.map (·.name))

/-! ### Entries in two layouts -/

private theorem header_of_layout (h : b.layout = .ok t) :
    t.name = some b.name ∧ t.padByte = some b.padByte := by
  unfold layout at h
  split at h
  · cases h
  · exact LayoutTree.header_of_addAll h

theorem SameEntry.refl (f g : FeatureSet) (r : Region) : SameEntry f g r r :=
  ⟨rfl, rfl, rfl, rfl, rfl, fun h => absurd rfl h⟩

structure SameEntries (f g : FeatureSet) (c c' : Container) : Prop where
  name : c.name = c'.name
  regions : List.Forall₂ (SameEntry f g) c.regions c'.regions

theorem SameEntries.refl (f g : FeatureSet) (c : Container) : SameEntries f g c c :=
  ⟨rfl, List.forall₂_same.2 fun r _ => .refl f g r⟩

private theorem sameEntry_stage1b (b : Board) (f g : FeatureSet) {r : Region}
    (hname : r.name ∈ stage1bNames) :
    SameEntry f g (r.withCodec (b.withFeatures f.full).stage1bCodec)
      (r.withCodec (b.withFeatures g.full).stage1bCodec) := by
  refine ⟨rfl, rfl, rfl, rfl, rfl, fun hcodec => ⟨hname, fun heq => hcodec ?_⟩⟩
  change (if f.stage1bInPlace then Codec.none else .lz4) = if g.stage1bInPlace then .none else .lz4
  rw [heq]

private theorem sameEntries_stage1 (b : Board) (f g : FeatureSet) :
    SameEntries f g (b.withFeatures f.full).stage1 (b.withFeatures g.full).stage1 := by
  refine ⟨rfl, .cons (.refl f g _) (.cons (.refl f g _) (.cons ?_ .nil))⟩
  exact sameEntry_stage1b b f g (r := Region.ofArtifact "STAGE1B.fd" b.sizes.stage1b)
    List.mem_cons_self

private theorem sameEntries_redundantCopy (b : Board) (f g : FeatureSet) (copy : BoardCopy) :
    SameEntries f g ((b.withFeatures f.full).redundantCopy copy)
      ((b.withFeatures g.full).redundantCopy copy) := by
  refine ⟨rfl, .cons ?_ (List.forall₂_same.2 fun r _ => .refl f g r)⟩
  have hname : copy.stage1bName ∈ stage1bNames := by cases copy <;> decide
  exact sameEntry_stage1b b f g
    (r := (Region.ofArtifact copy.stage1bName b.sizes.stage1b).atHead) hname

private theorem sameEntries_full (b : Board) (f g : FeatureSet) {cs cs' : List Container}
    (h : (b.withFeatures f.full).containers = .ok cs)
    (h' : (b.withFeatures g.full).containers = .ok cs') :
    List.Forall₂ (SameEntries f g) cs cs' := by
  by_cases hb : b.isRedundant
  · obtain rfl := redundant_of_containers h hb
    obtain rfl := redundant_of_containers h' hb
    have hcopy := sameEntries_redundantCopy b f g
    exact .cons (.refl f g _) (.cons (.refl f g _) (.cons (hcopy .a) (.cons (hcopy .b)
      (List.forall₂_same.2 fun c _ => .refl f g c))))
  · obtain ⟨-, rfl⟩ := simple_of_containers h hb
    obtain ⟨-, rfl⟩ := simple_of_containers h' hb
    exact .cons (sameEntries_stage1 b f g) (.cons (.refl f g _) .nil)

/-- A container has some of the entries of another one. -/
structure Thinned (c d : Container) : Prop where
  name : c.name = d.name
  regions : c.regions.Sublist d.regions

theorem Thinned.refl (c : Container) : Thinned c c := ⟨rfl, .refl _⟩

private theorem optionalRegion_sublist (on : Bool) (size : Option UInt32)
    (region : UInt32 → Region) :
    (optionalRegion on size region).Sublist (optionalRegion true size region) := by
  cases on with
  | false => exact List.nil_sublist _
  | true => exact .refl _

private theorem thinned_optional {name : String} {before after : List Region} (on : Bool)
    (size : Option UInt32) (region : UInt32 → Region) :
    Thinned ⟨name, before ++ optionalRegion on size region ++ after⟩
      ⟨name, before ++ optionalRegion true size region ++ after⟩ :=
  ⟨rfl, (((List.Sublist.refl _).append (optionalRegion_sublist on size region)).append (.refl _))⟩

private theorem containers_of_redundant (hb : b.isRedundant) :
    b.containers = .ok b.redundantContainers :=
  if_pos hb

private theorem containers_of_simple (hb : ¬ b.isRedundant) : b.containers = b.simpleContainers :=
  if_neg hb

private theorem thinned_full (b : Board) (f : FeatureSet) {cs : List Container}
    (h : (b.withFeatures f).containers = .ok cs) :
    ∃ ds, (b.withFeatures f.full).containers = .ok ds ∧ List.Forall₂ Thinned cs ds := by
  by_cases hb : b.isRedundant
  · obtain rfl := redundant_of_containers h hb
    refine ⟨(b.withFeatures f.full).redundantContainers, containers_of_redundant hb, ?_⟩
    have hcopy (copy : BoardCopy) : Thinned ((b.withFeatures f).redundantCopy copy)
        ((b.withFeatures f.full).redundantCopy copy) := thinned_optional _ _ _
    have hextra : Thinned (b.withFeatures f).nonRedundant (b.withFeatures f.full).nonRedundant :=
      ⟨rfl, (List.Sublist.refl _).append (optionalRegion_sublist _ _ _)⟩
    exact .cons (.refl _) (.cons hextra (.cons (hcopy .a) (.cons (hcopy .b)
      (List.forall₂_same.2 fun c _ => .refl c))))
  · obtain ⟨hsize, rfl⟩ := simple_of_containers h hb
    refine ⟨_, (containers_of_simple (b := b.withFeatures f.full) hb).trans (if_pos hsize), ?_⟩
    refine .cons (.refl _) (.cons ?_ .nil)
    rw [simpleImage_eq, simpleImage_eq]
    exact thinned_optional _ _ _

private theorem nodup_regionNames {cs : List Container} (h : b.containers = .ok cs) :
    ∀ c ∈ cs, (c.regions.map (·.name)).Nodup := by
  intro c hc
  by_cases hb : b.isRedundant
  · obtain rfl := redundant_of_containers h hb
    exact (b.wellShaped_redundant c hc).2
  · obtain ⟨-, rfl⟩ := simple_of_containers h hb
    exact (b.wellShaped_simple _ c hc).2

private theorem exists_full (h : (b.withFeatures f).layout = .ok t)
    (h' : (b.withFeatures g).layout = .ok t') {c c' : Container} (hc : c ∈ t.containers)
    (hc' : c' ∈ t'.containers) (hname : c.name = c'.name) :
    ∃ d d', (d.regions.map (·.name)).Nodup ∧ c.regions.Sublist d.regions ∧
      c'.regions.Sublist d'.regions ∧ SameEntries f g d d' := by
  have hnames := names_of_containers (containers_of_layout h)
  obtain ⟨ds, hds, hthin⟩ := thinned_full b f (containers_of_layout h)
  obtain ⟨ds', hds', hthin'⟩ := thinned_full b g (containers_of_layout h')
  obtain ⟨d, hd, hcd⟩ := exists_of_forall₂ hthin c hc
  obtain ⟨d', hd', hcd'⟩ := exists_of_forall₂ hthin' c' hc'
  have hdistinct : (ds.map (·.name)).Nodup := by
    have hsame : ds.map (·.name) = t.containers.map (·.name) :=
      (names_of_containers hds).trans hnames.symm
    exact hsame ▸ t.distinct
  refine ⟨d, d', nodup_regionNames hds d hd, hcd.regions, hcd'.regions, ?_⟩
  exact rel_of_key (sameEntries_full b f g hds hds') (fun _ _ hsame => hsame.name) hdistinct hd hd'
    (hcd.name.symm.trans (hname.trans hcd'.name))

private theorem sameButEntries_of_layout (h : (b.withFeatures f).layout = .ok t)
    (h' : (b.withFeatures g).layout = .ok t') : SameButEntries f g t t' := by
  obtain ⟨hname, hpad⟩ := header_of_layout h
  obtain ⟨hname', hpad'⟩ := header_of_layout h'
  refine ⟨hname.trans hname'.symm, ?_, hpad.trans hpad'.symm, ?_, ?_, ?_⟩
  · exact (blockSize_of_layout h).trans (blockSize_of_layout h').symm
  · exact (names_of_containers (containers_of_layout h)).trans
      (names_of_containers (containers_of_layout h')).symm
  · intro c hc c' hc' heq r hr r' hr' hregion
    obtain ⟨d, d', hdistinct, hsub, hsub', hsame⟩ := exists_full h h' hc hc' heq
    exact rel_of_key hsame.regions (fun _ _ hentry => hentry.name) hdistinct (hsub.subset hr)
      (hsub'.subset hr') hregion
  · intro c hc c' hc' heq
    obtain ⟨d, d', hdistinct, hsub, hsub', hsame⟩ := exists_full h h' hc hc' heq
    have hnames : d.regions.map (·.name) = d'.regions.map (·.name) := by
      rw [← List.forall₂_eq_eq_eq, List.forall₂_map_left_iff, List.forall₂_map_right_iff]
      exact hsame.regions.imp fun _ _ hentry => hentry.name
    exact filter_mem_comm hdistinct (hsub.map _) (hnames ▸ hsub'.map _)

/-! ### Entries in one layout -/

/-- A container has an entry of some name exactly if it should, and its size is the configured one,
which is not zero. -/
structure HasEntry (c : Container) (name : String) (on : Bool) (size : Option UInt32) : Prop where
  present : (∃ r ∈ c.regions, r.name = name) ↔ on = true
  size : ∀ r ∈ c.regions, r.name = name → size = some r.size ∧ r.size ≠ 0

structure Equipped (b : Board) (t : LayoutTree) : Prop where
  update : b.isRedundant → ∀ copy : BoardCopy, ∃ c, t.find? copy.redundantName = some c ∧
    HasEntry c "FWUPDATE.bin" b.features.firmwareUpdate b.sizes.firmwareUpdate
  extra : b.isRedundant → ∃ c, t.find? nonRedundantName = some c ∧
    HasEntry c "EPAYLOAD.bin" b.features.extraPayload b.sizes.extraPayload
  keyHash : ¬ b.isRedundant → ∃ c, t.final? = some c ∧
    ((∃ r ∈ c.regions, r.name = "KEYHASH.bin") ↔ b.features.verifiedBoot = true)
  unverified : b.isRedundant → ∀ on,
    (b.withFeatures { b.features with verifiedBoot := on }).layout = b.layout
  plain : ¬ b.isRedundant → ∀ update extra, (b.withFeatures
    { b.features with firmwareUpdate := update, extraPayload := extra }).layout = b.layout

private theorem exists_of_isPositive {size : Option UInt32} (h : isPositive size = true) :
    ∃ n, size = some n ∧ n ≠ 0 := by
  cases size with
  | none => cases h
  | some n => exact ⟨n, rfl, of_decide_eq_true h⟩

private theorem isPositive_of_validate (h : b.validate = .ok ()) :
    (b.features.firmwareUpdate = true → isPositive b.sizes.firmwareUpdate = true) ∧
      (b.features.extraPayload = true → isPositive b.sizes.extraPayload = true) := by
  have hfault : b.fault? = none := by
    unfold validate at h
    split at h
    · cases h
    · assumption
  unfold fault? at hfault
  split at hfault
  · cases hfault
  split at hfault
  · cases hfault
  split at hfault
  · cases hfault
  rename_i hupdate
  split at hfault
  · cases hfault
  rename_i hextra
  simp only [Bool.not_eq_true', not_and, Bool.not_eq_false] at hupdate hextra
  exact ⟨hupdate, hextra⟩

private theorem validate_of_read {text : String} (h : Board.read text = .ok b) :
    b.validate = .ok () := by
  rw [Board.read, readFrom] at h
  obtain ⟨d, -, h⟩ := StitchSetting.bind_eq_ok.1 h
  obtain ⟨b', -, h⟩ := StitchSetting.bind_eq_ok.1 h
  obtain ⟨⟨⟩, hvalid, h⟩ := StitchSetting.bind_eq_ok.1 h
  cases h
  exact hvalid

section Optional

variable {c : Container} {name : String} {before after : List Region} {on : Bool}
  {size : Option UInt32} {region : UInt32 → Region}

private theorem mem_optionalRegion_iff {r : Region} :
    r ∈ optionalRegion on size region ↔ on = true ∧ ∃ n, size = some n ∧ r = region n := by
  cases on <;> cases size <;> simp [optionalRegion]

private theorem mem_regions_iff (hc : c.regions = before ++ optionalRegion on size region ++ after)
    (hname : ∀ n, (region n).name = name)
    (hothers : name ∉ before.map (·.name) ++ after.map (·.name)) (r : Region) :
    r ∈ c.regions ∧ r.name = name ↔ on = true ∧ ∃ n, size = some n ∧ r = region n := by
  rw [← mem_optionalRegion_iff, hc, List.mem_append, List.mem_append]
  constructor
  · rintro ⟨(hr | hr) | hr, rfl⟩
    · exact absurd (List.mem_append_left _ (List.mem_map_of_mem hr)) hothers
    · exact hr
    · exact absurd (List.mem_append_right _ (List.mem_map_of_mem hr)) hothers
  · intro hr
    obtain ⟨-, n, -, rfl⟩ := mem_optionalRegion_iff.1 hr
    exact ⟨.inl (.inr hr), hname n⟩

private theorem hasEntry_optional
    (hc : c.regions = before ++ optionalRegion on size region ++ after)
    (hname : ∀ n, (region n).name = name) (hsize : ∀ n, (region n).size = n)
    (hothers : name ∉ before.map (·.name) ++ after.map (·.name))
    (positive : on = true → isPositive size = true) : HasEntry c name on size := by
  have hmem := mem_regions_iff hc hname hothers
  constructor
  · constructor
    · rintro ⟨r, hr⟩
      exact ((hmem r).1 hr).1
    · intro hon
      obtain ⟨n, hn, -⟩ := exists_of_isPositive (positive hon)
      exact ⟨region n, (hmem _).2 ⟨hon, n, hn, rfl⟩⟩
  · intro r hr hrname
    obtain ⟨hon, n, hn, rfl⟩ := (hmem r).1 ⟨hr, hrname⟩
    obtain ⟨n', hn', hne⟩ := exists_of_isPositive (positive hon)
    obtain rfl : n = n' := Option.some.inj (hn.symm.trans hn')
    rw [hsize]
    exact ⟨hn, hne⟩

end Optional

private theorem find?_nonRedundant (redundant : b.isRedundant) (h : b.layout = .ok t) :
    t.find? nonRedundantName = some b.nonRedundant := by
  have hmem : b.nonRedundant ∈ t.containers := by
    rw [redundant_of_containers (containers_of_layout h) redundant]
    exact List.mem_cons_of_mem _ List.mem_cons_self
  exact LayoutTree.find?_name hmem

private theorem layout_withFeatures (h : (b.withFeatures f).containers = b.containers) :
    (b.withFeatures f).layout = b.layout := by
  unfold layout
  rw [h]
  rfl

private theorem equipped_of_layout (valid : b.validate = .ok ()) (h : b.layout = .ok t) :
    b.Equipped t := by
  obtain ⟨hupdate, hextra⟩ := isPositive_of_validate valid
  refine ⟨?update, ?extra, ?keyHash, ?unverified, ?plain⟩
  case update =>
    intro hb copy
    refine ⟨b.redundantCopy copy, (find?_copies hb h copy).1, ?_⟩
    have hothers : "FWUPDATE.bin" ∉ [copy.stage1bName, "STAGE2.fd", "CFGDATA.bin",
        "KEYHASH.bin"] := by
      cases copy <;> decide
    exact hasEntry_optional rfl (fun _ => rfl) (fun _ => rfl) hothers hupdate
  case extra =>
    intro hb
    refine ⟨b.nonRedundant, find?_nonRedundant hb h, ?_⟩
    have hothers : "EPAYLOAD.bin" ∉ ["VARIABLE.bin", "PAYLOAD.bin"] := by decide
    exact hasEntry_optional (List.append_nil _).symm (fun _ => rfl) (fun _ => rfl) hothers hextra
  case keyHash =>
    intro hb
    obtain ⟨-, hcontainers⟩ := simple_of_containers (containers_of_layout h) hb
    refine ⟨_, by rw [LayoutTree.final?, hcontainers, List.getLast?_concat], ?_⟩
    have hothers : "KEYHASH.bin" ∉ [stage1Name, "STAGE2.fd", "CFGDATA.bin", "PAYLOAD.bin",
        "VARIABLE.bin", "SBLRSVD.bin"] := by
      decide
    have hmem := mem_regions_iff
      (congrArg Container.regions (b.simpleImage_eq (UInt32.ofNat b.sizes.stage1)))
      (fun _ => rfl) hothers
    constructor
    · rintro ⟨r, hr⟩
      exact ((hmem r).1 hr).1
    · exact fun hon => ⟨_, (hmem _).2 ⟨hon, _, rfl, rfl⟩⟩
  case unverified =>
    intro hb on
    refine layout_withFeatures ?_
    rw [containers_of_redundant hb]
    exact containers_of_redundant hb
  case plain =>
    intro hb update extra
    refine layout_withFeatures ?_
    rw [containers_of_simple hb]
    exact containers_of_simple hb

/-- Features add entries to the layout of a board or take them away, and leave all others as they
are but for the codec of stage 1B. In the layout of a board that has been read, the optional entries
are exactly those that its features ask for. -/
theorem entries_of_layout (b : Board) :
    (∀ f g t t', (b.withFeatures f).layout = .ok t → (b.withFeatures g).layout = .ok t' →
      SameButEntries f g t t') ∧
    ∀ text t, Board.read text = .ok b → b.layout = .ok t → b.Equipped t :=
  ⟨fun _ _ _ _ h h' => sameButEntries_of_layout h h',
    fun _ _ read h => equipped_of_layout (validate_of_read read) h⟩

def sampleChars : List Char :=
  [ "(name: \"sample\", image_name: \"IMAGE\", ", "pad_byte: 255, flash_block_size: B(1), ",
    "flash_size: B(33), redundant_layout: ", "true, features: (enable_fwu: true), ",
    "sizes: (reset: B(1), stage1a: B(1), ", "stage1b: B(2), stage2: B(2), ",
    "payload: B(2), cfgdata: B(1), ", "keyhash: B(1), variable: B(1), ",
    "sblrsvd: B(1), fwupdate: Some(B(2)), ", "top_swap: B(2), redundant: B(8), ",
    "non_redundant: B(12), ", "non_volatile: B(1)), ",
    "reset_vector: (arch: \"aarch64\", base: 0))"].flatMap String.toList

private theorem read_sampleChars : Board.read (String.ofList sampleChars) = .ok sample := by
  rw [Board.read, readFrom, Ron.readBoardDocument, String.toList_ofList]
  decide +kernel

def inPlaceLayout : LayoutTree :=
  { sample.emptyLayout with
    containers := (sample.withFeatures ⟨true, false, false, true⟩).redundantContainers
    distinct := by decide }

theorem entries_of_layout_sample :
    (sample.withFeatures ⟨true, false, false, true⟩).layout = .ok inPlaceLayout ∧
      SameButEntries ⟨true, false, false, true⟩ sample.features inPlaceLayout sampleLayout ∧
      (inPlaceLayout.find? "REDUNDANT_A.bin").map (·.regions.map fun r => (r.name, r.codec)) =
        some [("STAGE1B_A.fd", .none), ("STAGE2.fd", .lz4), ("CFGDATA.bin", .none),
          ("KEYHASH.bin", .none)] ∧
      Board.read (String.ofList sampleChars) = .ok sample ∧ sample.layout = .ok sampleLayout ∧
      sample.Equipped sampleLayout ∧
      (sampleLayout.find? "REDUNDANT_A.bin").map (·.regions.map fun r => (r.name, r.codec)) =
        some [("STAGE1B_A.fd", .lz4), ("STAGE2.fd", .lz4), ("FWUPDATE.bin", .lzma),
          ("CFGDATA.bin", .none), ("KEYHASH.bin", .none)] :=
  ⟨rfl, (entries_of_layout sample).1 _ _ _ _ rfl rfl, by decide, read_sampleChars, rfl,
    (entries_of_layout sample).2 _ _ read_sampleChars rfl, by decide⟩

end Board
end FlashImage
