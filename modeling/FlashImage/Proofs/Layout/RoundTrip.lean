import FlashImage.Layout.Validation
import FlashImage.Proofs.Layout.Export

/-!
A layout that is written as a document and read again.

The fields of a document are read as they were written, and what the document leaves out is what
the reader assumes. So a layout comes back as it was, or not at all.
-/

set_option autoImplicit false
set_option relaxedAutoImplicit false

namespace FlashImage

open Toml

private theorem word32?_toNat (n : UInt32) : word32? (n.toNat : Int) = some n := by
  have hlt := n.toNat_lt
  have hbounds : 0 ≤ (n.toNat : Int) ∧ (n.toNat : Int) < UInt32.size := by
    simp only [UInt32.size]
    omega
  rw [word32?, if_pos hbounds, Int.toNat_natCast, UInt32.ofNat_toNat]

private theorem readNumeric_integer {ofText : String → Except Fault UInt32} {i : Int} {n : UInt32}
    (h : word32? i = some n) : readNumeric ofText (.integer i) = .ok n := by
  rw [readNumeric, h]

private theorem readSize_integer (n : UInt32) : readSize (.integer n.toNat) = .ok n :=
  readNumeric_integer (word32?_toNat n)

private theorem readPadByte_integer (b : UInt8) : readPadByte (.integer b.toNat) = .ok b := by
  have hword : word32? (b.toNat : Int) = some b.toUInt32 := by
    rw [← UInt8.toNat_toUInt32, word32?_toNat]
  have hbyte : b.toUInt32.toNat < 256 := by
    rw [UInt8.toNat_toUInt32]
    exact b.toNat_lt
  rw [readPadByte, readNumeric_integer hword]
  change (if b.toUInt32.toNat < 256 then Except.ok b.toUInt32.toUInt8 else _) = _
  rw [if_pos hbyte, UInt8.toUInt8_toUInt32]

private theorem readFields_cons {δ : Type} {r : Record δ} {d d' : δ} {key : String} {v : Value}
    (h : r.set d key v = .ok d') (rest : Entries) :
    r.readFields d ((key, v) :: rest) = r.readFields d' rest := by
  rw [Record.readFields, h]
  rfl

private theorem readFields_cons_error {δ : Type} {r : Record δ} {d : δ} {key : String} {v : Value}
    {fault : Fault} (h : r.set d key v = .error fault) (rest : Entries) :
    r.readFields d ((key, v) :: rest) = .error fault := by
  rw [Record.readFields, h]
  rfl

section

variable {α β : Type} {read : Value → Except Fault β} {f : α → Value} {g : α → β} {xs : List α}

private theorem mapM_of_ok (h : ∀ x ∈ xs, read (f x) = .ok (g x)) :
    (xs.map f).mapM read = .ok (xs.map g) := by
  induction xs with
  | nil => rfl
  | cons x xs ih =>
    rw [List.map_cons, List.mapM_cons, h x List.mem_cons_self,
      ih fun y hy => h y (List.mem_cons_of_mem x hy)]
    rfl

private theorem ok_of_mapM {values : List Value} {ys : List β} (h : values.mapM read = .ok ys) :
    ∀ v ∈ values, ∃ y, read v = .ok y := by
  induction values generalizing ys with
  | nil => exact fun v hv => nomatch hv
  | cons v values ih =>
    rw [List.mapM_cons] at h
    cases hfirst : read v with
    | error fault =>
      rw [hfirst] at h
      cases h
    | ok y =>
      rw [hfirst] at h
      change (values.mapM read).bind _ = _ at h
      cases hrest : values.mapM read with
      | error fault =>
        rw [hrest] at h
        cases h
      | ok ys =>
        intro v' hv'
        rcases List.mem_cons.1 hv' with rfl | hv'
        · exact ⟨y, hfirst⟩
        · exact ih hrest v' hv'

end

namespace Region

def entry (r : Region) : RegionEntry where
  name := r.name
  file :=
    match r.source with
    | .artifact file => if file = r.name then none else some file
    | .container _ => none
  container := r.source.container?
  size := r.size
  codec := if r.codec = .none then none else some r.codec.name
  policy := some r.policy.name
  position := some r.position.name

private theorem readFields_sourceField (r : Region) (name : String) (rest : Entries) :
    regionRecord.readFields ⟨some name, none, none, none, none, none, none⟩
        (r.sourceField ++ rest) =
      regionRecord.readFields
        ⟨some name, r.entry.file, r.entry.container, none, none, none, none⟩ rest := by
  unfold sourceField entry
  cases r.source with
  | container child => exact readFields_cons rfl rest
  | artifact file =>
    by_cases hfile : file = r.name
    · simp only [if_pos hfile]
      rfl
    · simp only [if_neg hfile]
      exact readFields_cons rfl rest

private theorem readFields_codec (r : Region) (d : RegionDraft) (new : d.codec = none)
    (rest : Entries) :
    regionRecord.readFields d
        ((if r.codec = .none then [] else [("codec", .text r.codec.name)]) ++ rest) =
      regionRecord.readFields { d with codec := r.entry.codec } rest := by
  unfold entry
  by_cases hcodec : r.codec = .none
  · simp only [if_pos hcodec, ← new]
    rfl
  · simp only [if_neg hcodec]
    exact readFields_cons rfl rest

private theorem set_size {v : Value} {n : UInt32} (h : readSize v = .ok n) (d : RegionDraft) :
    regionRecord.set d "size" v = .ok { d with size := some n } := by
  change (readSize v).bind _ = _
  rw [h]
  rfl

private theorem readRegion_fields (r : Region) (form : TableForm) :
    readRegion (.table form r.fields) = .ok r.entry := by
  have hname : regionRecord.set regionRecord.start "name" (.text r.name) =
      .ok ⟨some r.name, none, none, none, none, none, none⟩ := rfl
  have hpolicy (d : RegionDraft) : regionRecord.set d "policy" (.text r.policy.name) =
      .ok { d with policy := some r.policy.name } := rfl
  have hposition (d : RegionDraft) : regionRecord.set d "position" (.text r.position.name) =
      .ok { d with position := some r.position.name } := rfl
  have hfields : regionRecord.readFields regionRecord.start r.fields =
      .ok ⟨some r.name, r.entry.file, r.entry.container, some r.size, r.entry.codec,
        some r.policy.name, some r.position.name⟩ := by
    simp only [fields, List.append_assoc, List.cons_append, List.nil_append]
    rw [readFields_cons hname, readFields_sourceField,
      readFields_cons (set_size (readSize_integer r.size) _), readFields_codec _ _ rfl,
      readFields_cons (hpolicy _), readFields_cons (hposition _)]
    rfl
  rw [readRegion, Record.read, hfields]
  rfl

private theorem read_name_codec (codec : Codec) : Codec.read codec.name = .ok codec := by
  cases codec <;> cbv

private theorem read_name_policy (policy : PaddingPolicy) :
    PaddingPolicy.read policy.name = .ok policy := by
  cases policy <;> cbv

private theorem read_name_position (position : InsertPosition) :
    InsertPosition.read position.name = .ok position := by
  cases position <;> cbv

private theorem region_entry (r : Region) : r.entry.region = .ok r := by
  obtain ⟨name, source, codec, size, policy, position⟩ := r
  have hcodec : RegionEntry.setting Codec.read .none
      (if codec = .none then none else some codec.name) = .ok codec := by
    by_cases h : codec = .none
    · subst h
      rfl
    · simp only [if_neg h, RegionEntry.setting, read_name_codec]
      rfl
  have hpolicy : RegionEntry.setting PaddingPolicy.read .pad (some policy.name) = .ok policy := by
    simp only [RegionEntry.setting, read_name_policy]
    rfl
  have hposition : RegionEntry.setting InsertPosition.read .tail (some position.name) =
      .ok position := by
    simp only [RegionEntry.setting, read_name_position]
    rfl
  cases source with
  | container child =>
    simp [RegionEntry.region, RegionEntry.source, entry, Source.container?, hcodec, hpolicy,
      hposition, bind, Except.bind, pure, Except.pure]
  | artifact file =>
    by_cases hfile : file = name <;>
      simp [RegionEntry.region, RegionEntry.source, entry, Source.container?, hcodec, hpolicy,
        hposition, hfile, bind, Except.bind, pure, Except.pure]

end Region

namespace Container

def entry (c : Container) : ContainerEntry := ⟨c.name, c.regions.map (·.entry)⟩

private theorem readList_regions (regions : List Region) :
    readList readRegion (.tables (regions.map (·.fields))) = .ok (regions.map (·.entry)) := by
  have hmap : ((regions.map (·.fields)).map (Value.table .defined)) =
      regions.map fun r => Value.table .defined r.fields := by
    rw [List.map_map]
    rfl
  change ((regions.map (·.fields)).map (Value.table .defined)).mapM readRegion = _
  rw [hmap]
  exact mapM_of_ok fun r _ => r.readRegion_fields .defined

private theorem readContainer_fields (c : Container) (form : TableForm) :
    readContainer (.table form c.fields) =
      if c.regions = [] then .error (.missingField "region") else .ok c.entry := by
  have hname : containerRecord.set containerRecord.start "name" (.text c.name) =
      .ok ⟨some c.name, none⟩ := rfl
  by_cases hregions : c.regions = []
  · have hfields : c.fields = [("name", .text c.name)] := by
      rw [fields, hregions]
      rfl
    rw [if_pos hregions, readContainer, Record.read, hfields, readFields_cons hname]
    rfl
  · have hset : containerRecord.set ⟨some c.name, none⟩ "region"
        (.tables (c.regions.map (·.fields))) =
          .ok ⟨some c.name, some (c.regions.map (·.entry))⟩ := by
      change (readList readRegion _).bind _ = _
      rw [readList_regions]
      rfl
    have hfields : c.fields =
        [("name", .text c.name), ("region", .tables (c.regions.map (·.fields)))] := by
      simp [fields, withTables, hregions]
    rw [if_neg hregions, readContainer, Record.read, hfields, readFields_cons hname,
      readFields_cons hset]
    rfl

private theorem regions_entry (container : String) (regions : List Region) :
    RegionEntry.regions container (regions.map (·.entry)) = .ok regions := by
  induction regions with
  | nil => rfl
  | cons r regions ih =>
    rw [List.map_cons, RegionEntry.regions, r.region_entry, ih]
    rfl

end Container

namespace LayoutTree

private theorem set_blockSize {v : Value} {n : UInt32} (h : readSize v = .ok n) (d : LayoutDraft) :
    layoutRecord.set d "block_size" v = .ok { d with blockSize := some n } := by
  change (readSize v).bind _ = _
  rw [h]
  rfl

private theorem set_padByte {v : Value} {b : UInt8} (h : readPadByte v = .ok b) (d : LayoutDraft) :
    layoutRecord.set d "pad_byte" v = .ok { d with padByte := some b } := by
  change (readPadByte v).bind _ = _
  rw [h]
  rfl

private theorem readLayout_fields (t : LayoutTree) (form : TableForm) :
    readLayout (.table form t.fields) = .ok ⟨t.name, t.blockSize, t.padByte⟩ := by
  have hname (rest : Entries) : layoutRecord.readFields layoutRecord.start
      (t.name.toList.map (fun n => ("name", .text n)) ++ rest) =
        layoutRecord.readFields ⟨t.name, none, none⟩ rest := by
    cases t.name with
    | none => rfl
    | some n => exact readFields_cons rfl rest
  have hpad : layoutRecord.readFields ⟨t.name, some t.blockSize, none⟩
      (t.padByte.toList.map fun b => ("pad_byte", .integer b.toNat)) =
        .ok ⟨t.name, some t.blockSize, t.padByte⟩ := by
    cases t.padByte with
    | none => rfl
    | some b => exact readFields_cons (set_padByte (readPadByte_integer b) _) []
  have hfields : layoutRecord.readFields layoutRecord.start t.fields =
      .ok ⟨t.name, some t.blockSize, t.padByte⟩ := by
    simp only [fields, List.append_assoc, List.cons_append, List.nil_append]
    rw [hname, readFields_cons (set_blockSize (readSize_integer t.blockSize) _), hpad]
  rw [readLayout, Record.read, hfields]
  rfl

private theorem readList_containers (cs : List Container) :
    ((∀ c ∈ cs, c.regions ≠ []) →
        readList readContainer (.tables (cs.map (·.fields))) = .ok (cs.map (·.entry))) ∧
      ∀ entries, readList readContainer (.tables (cs.map (·.fields))) = .ok entries →
        ∀ c ∈ cs, c.regions ≠ [] := by
  have hmap : ((cs.map (·.fields)).map (Value.table .defined)) =
      cs.map fun c => Value.table .defined c.fields := by
    rw [List.map_map]
    rfl
  have hread : readList readContainer (.tables (cs.map (·.fields))) =
      (cs.map fun c => Value.table .defined c.fields).mapM readContainer := by
    rw [← hmap]
    rfl
  rw [hread]
  refine ⟨fun filled => mapM_of_ok fun c hc => ?_, fun entries hok c hc hempty => ?_⟩
  · rw [c.readContainer_fields, if_neg (filled c hc)]
  · obtain ⟨e, he⟩ := ok_of_mapM hok _ (List.mem_map_of_mem hc)
    rw [c.readContainer_fields, if_pos hempty] at he
    cases he

private theorem add_eq_ok {t t' : LayoutTree} {c : Container} (new : c.name ∉ t.names)
    (hname : t'.name = t.name) (hsize : t'.blockSize = t.blockSize)
    (hpad : t'.padByte = t.padByte) (hcontainers : t'.containers = t.containers ++ [c]) :
    t.add c = .ok t' := by
  obtain ⟨name, blockSize, padByte, containers, distinct⟩ := t'
  cases hname
  cases hsize
  cases hpad
  cases hcontainers
  exact dif_neg new

private theorem addEntries_containers {t t' : LayoutTree} {cs : List Container}
    (hname : t'.name = t.name) (hsize : t'.blockSize = t.blockSize)
    (hpad : t'.padByte = t.padByte) (hcontainers : t'.containers = t.containers ++ cs) :
    t.addEntries (cs.map (·.entry)) = .ok t' := by
  -- The layout that is built up holds the containers so far. Its names differ, as those of the
  -- whole layout do.
  induction cs generalizing t with
  | nil =>
    obtain ⟨name, blockSize, padByte, containers, distinct⟩ := t'
    cases hname
    cases hsize
    cases hpad
    rw [List.append_nil] at hcontainers
    cases hcontainers
    rfl
  | cons c cs ih =>
    have happend : t.containers ++ c :: cs = (t.containers ++ [c]) ++ cs := by simp
    have hdistinct : ((t.containers ++ [c]).map (·.name)).Nodup := by
      have h := t'.distinct
      rw [hcontainers, happend, List.map_append] at h
      exact (List.nodup_append.1 h).1
    have new : c.name ∉ t.names := by
      rw [List.map_append, List.nodup_append] at hdistinct
      exact fun hmem => hdistinct.2.2 c.name hmem c.name (by simp) rfl
    let next : LayoutTree := { t with containers := t.containers ++ [c], distinct := hdistinct }
    have hadd : t.add c = .ok next := add_eq_ok new rfl rfl rfl rfl
    have hrest : next.addEntries (cs.map (·.entry)) = .ok t' :=
      ih hname hsize hpad (hcontainers.trans happend)
    rw [List.map_cons, addEntries, Container.entry, Container.regions_entry]
    change (t.add c).bind _ = _
    rw [hadd]
    exact hrest

private theorem ofDocument_entries (t : LayoutTree) :
    ofDocument ⟨⟨t.name, t.blockSize, t.padByte⟩, t.containers.map (·.entry)⟩ = .ok t :=
  addEntries_containers rfl rfl rfl rfl

private theorem readLayoutDocument_document {t : LayoutTree} (unescaped : t.Named Unescaped)
    (plain : t.Named Plain) :
    (t.containers ≠ [] → (∀ c ∈ t.containers, c.regions ≠ []) → readLayoutDocument t.document =
        .ok ⟨⟨t.name, t.blockSize, t.padByte⟩, t.containers.map (·.entry)⟩) ∧
      ∀ d, readLayoutDocument t.document = .ok d →
        t.containers ≠ [] ∧ ∀ c ∈ t.containers, c.regions ≠ [] := by
  have hdocument := (readDocument_document unescaped).1 plain
  have hlayout : documentRecord.set documentRecord.start "layout" (.table .defined t.fields) =
      .ok ⟨some ⟨t.name, t.blockSize, t.padByte⟩, none⟩ := by
    change (readLayout _).bind _ = _
    rw [readLayout_fields]
    rfl
  have hread : readLayoutDocument t.document = (do
      let d ← documentRecord.readFields documentRecord.start t.entries
      let layout ← required "layout" d.layout
      let containers ← required "container" d.containers
      return ⟨layout, containers⟩) := by
    rw [readLayoutDocument, hdocument]
    rfl
  obtain ⟨hall, hfilled⟩ := readList_containers t.containers
  by_cases hempty : t.containers = []
  · refine ⟨fun h => absurd hempty h, fun d hd => ?_⟩
    rw [hread, entries, hempty, List.map_nil, withTables, if_pos rfl, List.append_nil,
      readFields_cons hlayout] at hd
    cases hd
  have hentries : t.entries = [("layout", .table .defined t.fields),
      ("container", .tables (t.containers.map (·.fields)))] := by
    simp [entries, withTables, hempty]
  have hset : documentRecord.set ⟨some ⟨t.name, t.blockSize, t.padByte⟩, none⟩ "container"
      (.tables (t.containers.map (·.fields))) =
        (readList readContainer (.tables (t.containers.map (·.fields)))).map
          fun found => ⟨some ⟨t.name, t.blockSize, t.padByte⟩, some found⟩ := by
    change (readList readContainer _).bind _ = _
    cases readList readContainer (.tables (t.containers.map (·.fields))) <;> rfl
  rw [hread, hentries, readFields_cons hlayout]
  cases hlist : readList readContainer (.tables (t.containers.map (·.fields))) with
  | error fault =>
    rw [hlist] at hset
    rw [readFields_cons_error hset]
    refine ⟨fun _ filled => ?_, fun _ hd => ?_⟩
    · cases hlist.symm.trans (hall filled)
    · cases hd
  | ok found =>
    rw [hlist] at hset
    rw [readFields_cons hset]
    refine ⟨fun _ filled => ?_, fun _ _ => ⟨hempty, hfilled found hlist⟩⟩
    cases hlist.symm.trans (hall filled)
    rfl

private theorem read_of_readLayoutDocument {text : String} {d : LayoutDocument}
    (h : readLayoutDocument text = .ok d) : read text = ofDocument d := by
  rw [read, h]
  rfl

private theorem read_of_readLayoutDocument_error {text : String} {fault : Fault}
    (h : readLayoutDocument text = .error fault) :
    read text = .error (.unreadable "TOML layout" (.layout fault)) := by
  rw [read, h]
  rfl

/-- The characters of a text are those that a basic string takes as they are. -/
def Literal (s : String) : Prop :=
  ∀ c ∈ s.toList, c ≠ '"' ∧ c ≠ '\\' ∧ (c = '\t' ∨ 0x20 ≤ c.toNat ∧ c.toNat ≠ 0x7F)

instance (s : String) : Decidable (Literal s) :=
  List.decidableBAll (fun c => c ≠ '"' ∧ c ≠ '\\' ∧ (c = '\t' ∨ 0x20 ≤ c.toNat ∧ c.toNat ≠ 0x7F))
    s.toList

private theorem literal_iff (s : String) : Literal s ↔ Unescaped s ∧ Plain s := by
  simp only [Literal, Unescaped, Plain, isPlain, ← forall₂_and]
  refine forall₂_congr fun c _ => ?_
  simp [and_assoc]

theorem Named.mono {p q : String → Prop} {t : LayoutTree} (h : t.Named p)
    (hpq : ∀ s, p s → q s) : t.Named q :=
  ⟨fun n hn => hpq n (h.1 n hn), fun c hc => ⟨hpq _ (h.2 c hc).1, fun r hr =>
    ⟨hpq _ ((h.2 c hc).2 r hr).1, hpq _ ((h.2 c hc).2 r hr).2⟩⟩⟩

theorem read_document_of_plain {t : LayoutTree} (nonempty : t.containers ≠ [])
    (filled : ∀ c ∈ t.containers, c.regions ≠ []) (unescaped : t.Named Unescaped)
    (plain : t.Named Plain) : read t.document = .ok t := by
  have hread := (readLayoutDocument_document unescaped plain).1 nonempty filled
  rw [read_of_readLayoutDocument hread, ofDocument_entries]

/-- A layout with literal names comes back from its document as it was. -/
theorem read_document {t : LayoutTree} (nonempty : t.containers ≠ [])
    (filled : ∀ c ∈ t.containers, c.regions ≠ []) (names : t.Named Literal) :
    read t.document = .ok t :=
  read_document_of_plain nonempty filled (names.mono fun s h => ((literal_iff s).1 h).1)
    (names.mono fun s h => ((literal_iff s).1 h).2)

def boardTree : LayoutTree where
  name := some "QEMU (x64)"
  blockSize := 0x1000
  padByte := some 0xFF
  containers := [
    ⟨"STAGE.bin", [⟨"KERNEL", .artifact "kernel.fd", .lz4, 0x2000, .pad, .tail⟩]⟩,
    ⟨"IMAGE.bin", [
      Region.ofContainer "STAGE.bin" 0x2000,
      { Region.ofArtifact "Réservé" 0x1000 with policy := .ignore, position := .head }]⟩]
  distinct := by decide

theorem read_document_boardTree :
    boardTree.containers ≠ [] ∧ (∀ c ∈ boardTree.containers, c.regions ≠ []) ∧
      boardTree.Named Literal ∧ read boardTree.document = .ok boardTree := by
  have nonempty : boardTree.containers ≠ [] := by decide
  have filled : ∀ c ∈ boardTree.containers, c.regions ≠ [] := by decide
  have names : boardTree.Named Literal := by decide
  exact ⟨nonempty, filled, names, read_document nonempty filled names⟩

/-- A layout whose names have no quotes and no escapes comes back from its document as it was, if
the document can be read at all. -/
theorem eq_of_read_document {t t' : LayoutTree} (unescaped : t.Named Unescaped)
    (h : read t.document = .ok t') : t' = t := by
  by_cases plain : t.Named Plain
  · obtain ⟨hok, hfilled⟩ := readLayoutDocument_document unescaped plain
    cases hread : readLayoutDocument t.document with
    | error fault =>
      rw [read_of_readLayoutDocument_error hread] at h
      cases h
    | ok d =>
      obtain ⟨nonempty, filled⟩ := hfilled d hread
      rw [read_of_readLayoutDocument (hok nonempty filled), ofDocument_entries] at h
      exact (Except.ok.inj h).symm
  · have hread : readLayoutDocument t.document = .error .malformed := by
      rw [readLayoutDocument, (readDocument_document unescaped).2 plain]
      rfl
    rw [read_of_readLayoutDocument_error hread] at h
    cases h

def taggedTree : LayoutTree where
  name := some "[layout]"
  blockSize := 1
  padByte := some 0
  containers := [⟨"[[container]]", [Region.ofArtifact "size = 0x10 # all" 1]⟩]
  distinct := by decide

theorem eq_of_read_document_taggedTree :
    taggedTree.Named Unescaped ∧
      ∃ t', read taggedTree.document = .ok t' ∧ t' = taggedTree := by
  have unescaped : taggedTree.Named Unescaped := by decide
  have hread : read taggedTree.document = .ok taggedTree :=
    read_document_of_plain (by decide) (by decide) unescaped (by decide)
  exact ⟨unescaped, taggedTree, hread, eq_of_read_document unescaped hread⟩

def quotedTree : LayoutTree where
  name := none
  blockSize := 0x1000
  padByte := none
  containers := [⟨"IMAGE", [Region.ofArtifact "KEY\"\nfile = \"OTHER" 0x1000]⟩]
  distinct := by decide

def plainTree : LayoutTree where
  name := none
  blockSize := 0x1000
  padByte := none
  containers := [⟨"IMAGE", [{ Region.ofArtifact "OTHER" 0x1000 with name := "KEY" }]⟩]
  distinct := by decide

private theorem document_quotedTree : quotedTree.document = plainTree.document := by decide

/-- What the document of a valid layout gives can be another layout. -/
theorem read_document_quotedTree :
    quotedTree.validate = .ok () ∧ read quotedTree.document = .ok plainTree ∧
      plainTree.containers ≠ quotedTree.containers := by
  have hread : read plainTree.document = .ok plainTree :=
    read_document_of_plain (by decide) (by decide) (by decide) (by decide)
  exact ⟨by cbv, by rw [document_quotedTree, hread], by decide⟩

end LayoutTree
end FlashImage
