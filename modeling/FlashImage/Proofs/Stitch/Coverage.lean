import FlashImage.Proofs.Stitch.Preflight

/-!
What the check of one container covers: the container and all that it embeds, each once, and nothing
else.

The check takes one pending name in each turn, and a container that is new in that turn makes the
names pending that it embeds. So the names that are pending and the references of the containers
that are still new bound the turns that are left.
-/

set_option autoImplicit false
set_option relaxedAutoImplicit false

namespace FlashImage

open Relation (ReflTransGen)

def Region.Needs (r : Region) (artifact : String) : Prop :=
  r.source = .artifact artifact ∧ (r.policy = .pad ∨ r.policy = .noOp)

private theorem Region.needs_iff {r : Region} {artifact : String} :
    r.Needs artifact ↔ r.source = .artifact artifact ∧ r.policy ≠ .ignore := by
  unfold Needs
  cases r.policy <;> simp

namespace LayoutTree

/-- The number of references to containers in those of some containers that are not seen yet. -/
def references (seen : List String) : List Container → Nat
  | [] => 0
  | c :: rest => (if c.name ∈ seen then 0 else c.children.length) + references seen rest

variable {t : LayoutTree} {seen : List String} {name inner : String}

private theorem references_of_not_mem {containers : List Container}
    (h : name ∉ containers.map (·.name)) :
    references (name :: seen) containers = references seen containers := by
  induction containers with
  | nil => rfl
  | cons c rest ih =>
    rw [List.map_cons, List.mem_cons, not_or] at h
    have hseen : c.name ∈ name :: seen ↔ c.name ∈ seen := by
      rw [List.mem_cons, or_iff_right (Ne.symm h.1)]
    simp only [references, hseen, ih h.2]

private theorem references_cons {containers : List Container} {c : Container}
    (distinct : (containers.map (·.name)).Nodup) (hc : c ∈ containers) (new : c.name ∉ seen) :
    c.children.length + references (c.name :: seen) containers = references seen containers := by
  induction containers with
  | nil => cases hc
  | cons d rest ih =>
    rw [List.map_cons, List.nodup_cons] at distinct
    rcases List.mem_cons.1 hc with rfl | hrest
    · have hothers : references (c.name :: seen) rest = references seen rest :=
        references_of_not_mem distinct.1
      rw [references, references, if_pos List.mem_cons_self, if_neg new, hothers, Nat.zero_add]
    · have hne : d.name ≠ c.name := by
        intro heq
        apply distinct.1
        rw [heq]
        exact List.mem_map_of_mem hrest
      have hseen : d.name ∈ c.name :: seen ↔ d.name ∈ seen := by
        rw [List.mem_cons, or_iff_right hne]
      have hothers := ih distinct.2 hrest
      simp only [references, hseen]
      omega

private theorem WellFormed.mem_names_of_reaches (wellFormed : t.WellFormed) (hname : name ∈ t.names)
    (h : ReflTransGen t.Embeds name inner) : inner ∈ t.names := by
  induction h with
  | refl => exact hname
  | tail _ he _ =>
    obtain ⟨c, hc, r, hr, source⟩ := exists_of_embeds he
    obtain ⟨d, hd, rfl, -⟩ := (wellFormed.regionFits c (mem_of_find? hc) r hr).holds _ source
    exact List.mem_map_of_mem hd

private theorem kind_of_checkRegions {container : String} {regions : List Region} {e : Error}
    (h : t.checkRegions container seen regions = .error e) : e.kind = .configuration := by
  induction regions generalizing seen with
  | nil => cases h
  | cons r rest ih =>
    rw [checkRegions] at h
    split at h
    · cases h
      rfl
    · exact ih h

private theorem kind_of_checkContainers {containers : List Container} {e : Error}
    (h : t.checkContainers containers = .error e) : e.kind = .configuration := by
  induction containers with
  | nil => cases h
  | cons c rest ih =>
    rw [checkContainers] at h
    split at h
    · rename_i hcheck
      cases h
      unfold checkContainer at hcheck
      split at hcheck
      · cases hcheck
        rfl
      split at hcheck
      · cases hcheck
        rfl
      · exact kind_of_checkRegions hcheck
    · exact ih h

private theorem kind_of_validate {e : Error} (h : t.validate = .error e) :
    e.kind = .configuration := by
  unfold validate at h
  split at h
  · cases h
    rfl
  split at h
  · cases h
    rfl
  split at h
  · rename_i hcheck
    cases h
    exact kind_of_checkContainers hcheck
  split at h
  · cases h
    rfl
  · cases h

end LayoutTree

namespace StitchJob

variable {tree : LayoutTree} {store : ArtifactStore} {fs : Files} {seen pending : List String}
  {name : String} {e : Error}

/-- The turns that the check of pending containers takes, and its result. -/
inductive Turns (tree : LayoutTree) (store : ArtifactStore) (fs : Files) :
    Nat → (seen pending : List String) → Except Error Unit → Prop
  | done {seen : List String} : Turns tree store fs 0 seen [] (.ok ())
  | again {seen rest : List String} {name : String} {turns : Nat} {result : Except Error Unit}
      (known : name ∈ seen) (next : Turns tree store fs turns seen rest result) :
      Turns tree store fs (turns + 1) seen (name :: rest) result
  | unknown {seen rest : List String} {name : String} (new : name ∉ seen)
      (lacking : tree.find? name = none) :
      Turns tree store fs 1 seen (name :: rest) (.error (unknownContainer name))
  | missing {seen rest : List String} {name : String} {c : Container} {e : Error}
      (new : name ∉ seen) (found : tree.find? name = some c)
      (check : checkArtifacts store fs c.name c.regions = .error e) :
      Turns tree store fs 1 seen (name :: rest) (.error e)
  | checked {seen rest : List String} {name : String} {c : Container} {turns : Nat}
      {result : Except Error Unit} (new : name ∉ seen) (found : tree.find? name = some c)
      (check : checkArtifacts store fs c.name c.regions = .ok ())
      (next : Turns tree store fs turns (name :: seen) (c.children.reverse ++ rest) result) :
      Turns tree store fs (turns + 1) seen (name :: rest) result

private theorem exists_turns (tree : LayoutTree) (store : ArtifactStore) (fs : Files)
    (seen pending : List String) :
    ∃ turns ≤ pending.length + LayoutTree.references seen tree.containers,
      Turns tree store fs turns seen pending (checkReached tree store fs seen pending) := by
  fun_induction checkReached tree store fs seen pending with
  | case1 seen => exact ⟨0, Nat.zero_le _, .done⟩
  | case2 seen name rest hs ih =>
    obtain ⟨turns, hle, hturns⟩ := ih
    refine ⟨turns + 1, ?_, .again hs hturns⟩
    rw [List.length_cons]
    omega
  | case3 seen name rest hs hc =>
    refine ⟨1, ?_, .unknown hs hc⟩
    rw [List.length_cons]
    omega
  | case4 seen name rest hs c hc e hcheck =>
    refine ⟨1, ?_, .missing hs hc hcheck⟩
    rw [List.length_cons]
    omega
  | case5 seen name rest hs c hc hcheck _ ih =>
    obtain ⟨turns, hle, hturns⟩ := ih
    refine ⟨turns + 1, ?_, .checked hs hc hcheck hturns⟩
    obtain rfl := LayoutTree.name_of_find? hc
    have hspent := LayoutTree.references_cons tree.distinct (LayoutTree.mem_of_find? hc) hs
    rw [List.length_append, List.length_reverse] at hle
    rw [List.length_cons]
    omega

private theorem Turns.eq_checkReached {turns : Nat} {result : Except Error Unit}
    (h : Turns tree store fs turns seen pending result) :
    checkReached tree store fs seen pending = result := by
  induction h with
  | done => rw [checkReached]
  | again known _ ih => rw [checkReached, dif_pos known, ih]
  | unknown new lacking =>
    rw [checkReached, dif_neg new]
    split
    · rfl
    · rename_i hc
      cases hc.symm.trans lacking
  | missing new found check =>
    rw [checkReached, dif_neg new]
    split
    · rename_i hc
      cases hc.symm.trans found
    · rename_i hc
      cases hc.symm.trans found
      rw [check]
  | checked new found check _ ih =>
    rw [checkReached, dif_neg new]
    split
    · rename_i hc
      cases hc.symm.trans found
    · rename_i hc
      cases hc.symm.trans found
      rw [check]
      exact ih

/-- The faults for which the check of a container fails. -/
inductive CheckFault (tree : LayoutTree) (store : ArtifactStore) (fs : Files) (name : String) :
    Error → Prop
  | unknown (lacking : tree.find? name = none) :
      CheckFault tree store fs name (unknownContainer name)
  | missing {c : Container} {r : Region} {artifact : String} (found : tree.find? name = some c)
      (region : r ∈ c.regions) (needs : r.Needs artifact)
      (absent : store.contains fs artifact = false) :
      CheckFault tree store fs name (missingArtifact c.name r artifact)

private theorem fault_of_checkReached (h : checkReached tree store fs seen pending = .error e) :
    ∃ outer ∈ pending, ∃ inner, ReflTransGen tree.Embeds outer inner ∧
      CheckFault tree store fs inner e := by
  fun_induction checkReached tree store fs seen pending with
  | case1 => cases h
  | case2 seen name rest hs ih =>
    obtain ⟨outer, houter, hfault⟩ := ih h
    exact ⟨outer, List.mem_cons_of_mem name houter, hfault⟩
  | case3 seen name rest hs hc =>
    cases h
    exact ⟨name, List.mem_cons_self, name, .refl, .unknown hc⟩
  | case4 seen name rest hs c hc _ hcheck =>
    cases h
    obtain ⟨r, hr, artifact, source, policy, absent, rfl⟩ := exists_of_checkArtifacts_error hcheck
    have needs : r.Needs artifact := Region.needs_iff.2 ⟨source, policy⟩
    exact ⟨name, List.mem_cons_self, name, .refl, .missing hc hr needs absent⟩
  | case5 seen name rest hs c hc hcheck _ ih =>
    obtain ⟨outer, houter, inner, hreaches, hfault⟩ := ih h
    rcases List.mem_append.1 houter with hchild | hrest
    · -- What a container embeds is pending for it.
      have he : tree.Embeds name outer := by
        rw [LayoutTree.embeds_iff, LayoutTree.children_of_find? hc]
        exact List.mem_reverse.1 hchild
      exact ⟨name, List.mem_cons_self, inner, .head he hreaches, hfault⟩
    · exact ⟨outer, List.mem_cons_of_mem name hrest, inner, hreaches, hfault⟩

private theorem checkReached_eq_ok_iff :
    checkReached tree store fs [] [name] = .ok () ↔
      ∀ inner, ReflTransGen tree.Embeds name inner → Supplied tree store fs inner := by
  constructor
  · intro h inner hreaches
    obtain ⟨names, -, hpending, hchecked⟩ :=
      checked_of_checkReached h (fun _ hname => absurd hname List.not_mem_nil)
        fun _ hname => absurd hname List.not_mem_nil
    apply hchecked.supplied
    induction hreaches with
    | refl => exact hpending List.mem_cons_self
    | tail _ he ih => exact hchecked.closed _ ih _ he
  · intro h
    cases hcheck : checkReached tree store fs [] [name] with
    | ok _ => rfl
    | error e =>
      obtain ⟨outer, houter, inner, hreaches, hfault⟩ := fault_of_checkReached hcheck
      rw [List.mem_singleton.1 houter] at hreaches
      obtain ⟨c, hc, hprovided⟩ := h inner hreaches
      cases hfault with
      | unknown lacking => cases hc.symm.trans lacking
      | missing found region needs absent =>
        cases hc.symm.trans found
        obtain ⟨source, policy⟩ := Region.needs_iff.1 needs
        rcases hprovided _ region _ source with hignore | hpresent
        · exact absurd hignore policy
        · cases hpresent.symm.trans absent

/-- The artifacts that a container and all that it reaches cannot do without are there. -/
def Furnished (job : StitchJob) (fs : Files) (name : String) : Prop :=
  ∀ inner, ReflTransGen job.tree.Embeds name inner → ∀ c, job.tree.find? inner = some c →
    ∀ r ∈ c.regions, ∀ artifact, r.Needs artifact → job.store.contains fs artifact = true

private theorem provided_iff {r : Region} :
    Provided store fs r ↔ ∀ artifact, r.Needs artifact → store.contains fs artifact = true := by
  constructor
  · intro h artifact needs
    obtain ⟨source, policy⟩ := Region.needs_iff.1 needs
    exact (h artifact source).resolve_left policy
  · intro h artifact source
    by_cases policy : r.policy = .ignore
    · exact .inl policy
    · exact .inr (h artifact (Region.needs_iff.2 ⟨source, policy⟩))

variable {job : StitchJob}

private theorem preflightFor_eq_ok_iff_supplied :
    job.preflightFor fs name = .ok () ↔ job.tree.validate = .ok () ∧
      ∀ inner, ReflTransGen job.tree.Embeds name inner →
        Supplied job.tree job.store fs inner := by
  cases hvalid : job.tree.validate with
  | error e => simp [preflightFor, hvalid]
  | ok _ => simp [preflightFor, hvalid, checkReached_eq_ok_iff]

private theorem supplied_iff_furnished (wellFormed : job.tree.WellFormed) :
    (∀ inner, ReflTransGen job.tree.Embeds name inner → Supplied job.tree job.store fs inner) ↔
      name ∈ job.tree.names ∧ job.Furnished fs name := by
  constructor
  · intro h
    obtain ⟨c, hc, -⟩ := h name .refl
    refine ⟨LayoutTree.mem_names_of_find? hc, ?_⟩
    intro inner hreaches d hd r hr
    obtain ⟨d', hd', hprovided⟩ := h inner hreaches
    cases hd.symm.trans hd'
    exact provided_iff.1 (hprovided r hr)
  · rintro ⟨hname, hfurnished⟩ inner hreaches
    have hinner := wellFormed.mem_names_of_reaches hname hreaches
    obtain ⟨c, hc, rfl⟩ := List.mem_map.1 hinner
    have hfind := LayoutTree.find?_name hc
    refine ⟨c, hfind, ?_⟩
    intro r hr
    exact provided_iff.2 (hfurnished c.name hreaches c hfind r hr)

private theorem missing_of_preflightFor {container region artifact : String}
    (h : job.preflightFor fs name = .error (.missingArtifact container region artifact)) :
    ∃ c ∈ job.tree.containers, c.name = container ∧
      ReflTransGen job.tree.Embeds name container ∧
      ∃ r ∈ c.regions, r.name = region ∧ r.Needs artifact ∧
        job.store.contains fs artifact = false := by
  unfold preflightFor at h
  split at h
  · rename_i e hvalid
    cases h
    cases LayoutTree.kind_of_validate hvalid
  obtain ⟨outer, houter, inner, hreaches, hfault⟩ := fault_of_checkReached h
  rw [List.mem_singleton.1 houter] at hreaches
  generalize he : Error.missingArtifact container region artifact = e at hfault
  cases hfault with
  | unknown => cases he
  | missing found hregion needs absent =>
    cases he
    obtain rfl := LayoutTree.name_of_find? found
    exact ⟨_, LayoutTree.mem_of_find? found, rfl, hreaches, _, hregion, rfl, needs, absent⟩

/-- The check of one container ends, after no more turns than there are references to containers in
the layout and one. It passes exactly if the layout is valid, the container is one of the layout and
the artifacts are there that it and all that it reaches cannot do without; a missing artifact that
it reports is one of these. So the check of everything passes exactly if the layout is valid and the
checks of all containers pass. -/
theorem preflightFor_covers_reached (job : StitchJob) (fs : Files) :
    (∀ name,
      (∃ turns ≤ 1 + LayoutTree.references [] job.tree.containers, ∃ result,
        Turns job.tree job.store fs turns [] [name] result ∧
          job.preflightFor fs name = job.tree.validate >>= fun _ => result) ∧
      (job.preflightFor fs name = .ok () ↔
        job.tree.validate = .ok () ∧ name ∈ job.tree.names ∧ job.Furnished fs name) ∧
      ∀ container region artifact,
        job.preflightFor fs name = .error (.missingArtifact container region artifact) →
          ∃ c ∈ job.tree.containers, c.name = container ∧
            ReflTransGen job.tree.Embeds name container ∧
            ∃ r ∈ c.regions, r.name = region ∧ r.Needs artifact ∧
              job.store.contains fs artifact = false) ∧
    (job.preflight fs = .ok () ↔
      job.tree.validate = .ok () ∧
        ∀ c ∈ job.tree.containers, job.preflightFor fs c.name = .ok ()) := by
  have hok (name : String) : job.preflightFor fs name = .ok () ↔
      job.tree.validate = .ok () ∧ name ∈ job.tree.names ∧ job.Furnished fs name := by
    rw [preflightFor_eq_ok_iff_supplied]
    apply and_congr_right
    intro hvalid
    exact supplied_iff_furnished (LayoutTree.WellFormed.of_validate hvalid)
  refine ⟨fun name => ⟨?ends, hok name, fun _ _ _ => missing_of_preflightFor⟩, ?all⟩
  case ends =>
    obtain ⟨turns, hle, hturns⟩ := exists_turns job.tree job.store fs [] [name]
    refine ⟨turns, hle, _, hturns, ?_⟩
    unfold preflightFor
    cases job.tree.validate <;> rfl
  case all =>
    constructor
    · intro h
      obtain ⟨wellFormed, hchecked⟩ := checked_of_preflight h
      have hvalid := wellFormed.validate
      refine ⟨hvalid, ?_⟩
      intro c hc
      apply preflightFor_eq_ok_iff_supplied.2
      refine ⟨hvalid, ?_⟩
      intro inner hreaches
      apply hchecked.supplied
      exact wellFormed.mem_names_of_reaches (List.mem_map_of_mem hc) hreaches
    · rintro ⟨hvalid, hall⟩
      have hprovided : checkAll job.store fs job.tree.containers = .ok () := by
        apply checkAll_eq_ok_iff.2
        intro c hc
        obtain ⟨-, -, hfurnished⟩ := (hok c.name).1 (hall c hc)
        intro r hr
        exact provided_iff.2 (hfurnished c.name .refl c (LayoutTree.find?_name hc) r hr)
      simp only [preflight, hvalid, hprovided]

def sharedTree : LayoutTree where
  name := none
  blockSize := 4
  padByte := none
  containers := [
    ⟨"LEAF", [Region.ofArtifact "a" 4]⟩,
    ⟨"SIDE", [Region.ofContainer "LEAF" 4]⟩,
    ⟨"TOP", [Region.ofContainer "LEAF" 4, Region.ofContainer "SIDE" 4]⟩,
    ⟨"SPARE", [Region.ofArtifact "c" 4]⟩]
  distinct := by decide

def sharedJob : StitchJob := ⟨sharedTree, ⟨[("a", [1])], []⟩, fun _ raw => return raw, 0xFF⟩

private theorem sharedTree_validate : sharedTree.validate = .ok () :=
  LayoutTree.validate_eq_ok_iff_checks.2 ⟨by decide, by decide, rfl, by cbv⟩

/-- The container on top passes although an artifact is missing, in at most four turns: the leaf is
taken twice. What the other container lacks is found for that one and for the whole layout. -/
theorem preflightFor_covers_reached_shared :
    let fs : Files := { entries := [], current := [] }
    (∃ turns ≤ 4, ∃ result, Turns sharedTree sharedJob.store fs turns [] ["TOP"] result) ∧
      sharedJob.preflightFor fs "TOP" = .ok () ∧ sharedJob.Furnished fs "TOP" ∧
      sharedJob.preflightFor fs "SPARE" = .error (.missingArtifact "SPARE" "c" "c") ∧
      (∃ c ∈ sharedTree.containers, c.name = "SPARE" ∧
        ∃ r ∈ c.regions, r.name = "c" ∧ r.Needs "c" ∧ sharedJob.store.contains fs "c" = false) ∧
      sharedJob.preflight fs ≠ .ok () := by
  intro fs
  have hcheck (name : String) : sharedJob.preflightFor fs name =
      checkReached sharedTree sharedJob.store fs [] [name] := by
    have hvalid : sharedJob.tree.validate = .ok () := sharedTree_validate
    simp only [preflightFor, hvalid]
    rfl
  have htop : sharedJob.preflightFor fs "TOP" = .ok () := by
    have hturns : Turns sharedTree sharedJob.store fs 4 [] ["TOP"] (.ok ()) :=
      .checked (by decide) rfl rfl (.checked (by decide) rfl rfl
        (.checked (by decide) rfl rfl (.again (by decide) .done)))
    rw [hcheck, hturns.eq_checkReached]
  have hspare : sharedJob.preflightFor fs "SPARE" = .error (.missingArtifact "SPARE" "c" "c") := by
    have hturns : Turns sharedTree sharedJob.store fs 1 [] ["SPARE"]
        (.error (.missingArtifact "SPARE" "c" "c")) := .missing (by decide) rfl rfl
    rw [hcheck, hturns.eq_checkReached]
  obtain ⟨hnames, hall⟩ := preflightFor_covers_reached sharedJob fs
  obtain ⟨⟨turns, hle, result, hturns, -⟩, hok, -⟩ := hnames "TOP"
  obtain ⟨-, -, hmissing⟩ := hnames "SPARE"
  obtain ⟨c, hc, hname, -, hlacks⟩ := hmissing "SPARE" "c" "c" hspare
  refine ⟨⟨turns, hle, result, hturns⟩, htop, (hok.1 htop).2.2, hspare, ⟨c, hc, hname, hlacks⟩, ?_⟩
  intro hpreflight
  have hlast : ⟨"SPARE", [Region.ofArtifact "c" 4]⟩ ∈ sharedJob.tree.containers :=
    List.mem_of_getLast? rfl
  have hpassed := (hall.1 hpreflight).2 _ hlast
  cases hspare.symm.trans hpassed

end StitchJob
end FlashImage
