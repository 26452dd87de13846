import FlashImage.Layout.Document
import FlashImage.Layout.Export
import FlashImage.Proofs.Toml.Numeral
import FlashImage.Proofs.Toml.Table

/-!
What the text of a layout says as a TOML document.

The text is lines, the lines are statements, and the statements are the entries of tables. Names
are written as they are, so the text is a document only if they are literal. Names with quotes or
escapes are left aside here, as with them the lines may be others.
-/

set_option autoImplicit false
set_option relaxedAutoImplicit false

namespace FlashImage

open Toml

private theorem lines_textLine (key : String) {value : String} (bare : Bare key)
    (unescaped : Unescaped value) :
    Lines (textLine key value) (Plain value) [.entry [key] (.text value)] := by
  refine ⟨1, ?_, fun limit rest => ?_⟩
  · rw [textLine, String.toList_append, List.length_append]
    exact Nat.le_add_left _ _
  have htext : (textLine key value).toList ++ rest =
      key.toList ++ ' ' :: '=' :: ' ' :: '"' :: (value.toList ++ '"' :: '\n' :: rest) := by
    simp [textLine]
  rw [htext, readStatements_entry bare, skipBlanks_of_head (by decide),
    readValue_quoted _ unescaped]
  refine ⟨fun plain => ?_, fun control => ?_⟩
  · rw [readBasic_append unescaped plain, Option.map_some]
    simp only [String.ofList_toList]
    rfl
  · rw [readBasic_eq_none unescaped control]
    rfl

private theorem lines_plainLine (key : String) {value : String} (bare : Bare key)
    (unescaped : Unescaped value) (plain : Plain value) :
    Lines (textLine key value) True [.entry [key] (.text value)] :=
  (lines_textLine key bare unescaped).of_eq rfl (iff_of_true plain trivial) rfl

private theorem lines_hexLine (key : String) (bare : Bare key) (digits : Nat) {n : Nat}
    (hn : (n : Int) < integerLimit) :
    Lines (hexLine key digits n) True [.entry [key] (.integer n)] := by
  refine ⟨1, ?_, fun limit rest => ⟨fun _ => ?_, fun h => (h trivial).elim⟩⟩
  · rw [hexLine, String.toList_append, List.length_append]
    exact Nat.le_add_left _ _
  have htext : (hexLine key digits n).toList ++ rest = key.toList ++ ' ' :: '=' :: ' ' :: '0' ::
      'x' :: ((Text.zeroFilled digits (Text.upperHex n)).toList ++ '\n' :: rest) := by
    simp [hexLine]
  rw [htext, readStatements_entry bare, skipBlanks_of_head (by decide), readValue_hex _ _ hn]
  rfl

private theorem toNat_lt_integerLimit (n : UInt32) : (n.toNat : Int) < integerLimit := by
  have hlt := n.toNat_lt
  rw [integerLimit]
  omega

private theorem lines_newline : Lines "\n" True [] :=
  ⟨1, Nat.le_refl 1, fun limit rest =>
    ⟨fun _ => (Option.map_id' (x := readStatements limit rest)).symm, fun h => (h trivial).elim⟩⟩

private theorem lines_header {header : String} {statement : Statement} {s : List Char}
    (htext : header.toList = '[' :: s)
    (hread : ∀ rest, readStatement ('[' :: (s ++ rest)) = some (statement, rest)) :
    Lines header True [statement] := by
  refine ⟨1, by simp [htext], fun limit rest => ⟨fun _ => ?_, fun h => (h trivial).elim⟩⟩
  rw [htext, List.cons_append, readStatements_cons (by decide) (by decide), hread]
  rfl

private theorem lines_layoutHeader : Lines "[layout]\n" True [.table ["layout"]] :=
  lines_header (s := "layout]\n".toList) rfl fun rest => by cbv

private theorem lines_containerHeader : Lines "\n[[container]]\n" True [.item ["container"]] :=
  have header : Lines "[[container]]\n" True [.item ["container"]] :=
    lines_header (s := "[container]]\n".toList) rfl fun rest => by cbv
  (lines_newline.append header).of_eq rfl (by simp) rfl

private theorem lines_regionHeader :
    Lines "\n[[container.region]]\n" True [.item ["container", "region"]] :=
  have header : Lines "[[container.region]]\n" True [.item ["container", "region"]] :=
    lines_header (s := "[container.region]]\n".toList) rfl fun rest => by cbv
  (lines_newline.append header).of_eq rfl (by simp) rfl

namespace Region

def sourceField (r : Region) : Entries :=
  match r.source with
  | .container child => [("container", .text child)]
  | .artifact file => if file = r.name then [] else [("file", .text file)]

def fields (r : Region) : Entries :=
  [("name", .text r.name)] ++ r.sourceField ++ [("size", .integer r.size.toNat)] ++
    (if r.codec = .none then [] else [("codec", .text r.codec.name)]) ++
    [("policy", .text r.policy.name)] ++ [("position", .text r.position.name)]

def statements (r : Region) : List Statement :=
  .item ["container", "region"] :: fieldStatements r.fields

def Named (p : String → Prop) (r : Region) : Prop := p r.name ∧ p r.source.name

instance {p : String → Prop} [DecidablePred p] (r : Region) : Decidable (r.Named p) :=
  inferInstanceAs (Decidable (p r.name ∧ p r.source.name))

private theorem lines_sourceLine {r : Region} (unescaped : Unescaped r.source.name) :
    Lines r.sourceLine (r.sourceField = [] ∨ Plain r.source.name)
      (fieldStatements r.sourceField) := by
  unfold sourceLine sourceField
  cases hsource : r.source with
  | container child =>
    rw [hsource] at unescaped
    exact (lines_textLine _ (by decide) unescaped).of_eq rfl (by simp [Source.name]) rfl
  | artifact file =>
    rw [hsource] at unescaped
    by_cases hfile : file = r.name
    · simp only [if_pos hfile]
      exact Lines.nil.of_eq rfl (by simp) rfl
    · simp only [if_neg hfile]
      exact (lines_textLine _ (by decide) unescaped).of_eq rfl (by simp [Source.name]) rfl

private theorem name_source_of_sourceField {r : Region} (h : r.sourceField = []) :
    r.source.name = r.name := by
  unfold sourceField at h
  cases hsource : r.source with
  | container child => simp [hsource] at h
  | artifact file =>
    by_cases hfile : file = r.name
    · exact hfile
    · simp [hsource, hfile] at h

private theorem lines_codecLine (r : Region) :
    Lines (if r.codec = .none then "" else textLine "codec" r.codec.name) True
      (fieldStatements (if r.codec = .none then [] else [("codec", .text r.codec.name)])) := by
  by_cases hcodec : r.codec = .none
  · simp only [if_pos hcodec]
    exact Lines.nil
  · simp only [if_neg hcodec]
    exact lines_plainLine "codec" (by decide) (by cases r.codec <;> decide)
      (by cases r.codec <;> decide)

private theorem lines_document {r : Region} (unescaped : r.Named Unescaped) :
    Lines r.document (r.Named Plain) r.statements := by
  have hname := lines_textLine "name" (by decide) unescaped.1
  have hsize := lines_hexLine "size" (by decide) 8 (toNat_lt_integerLimit r.size)
  have hpolicy : Lines (textLine "policy" r.policy.name) True _ :=
    lines_plainLine _ (by decide) (by cases r.policy <;> decide) (by cases r.policy <;> decide)
  have hposition : Lines (textLine "position" r.position.name) True _ :=
    lines_plainLine _ (by decide) (by cases r.position <;> decide) (by cases r.position <;> decide)
  refine (((((lines_regionHeader.append hname).append (lines_sourceLine unescaped.2)).append
    hsize).append (lines_codecLine r)).append hpolicy |>.append hposition).of_eq rfl ?_ ?_
  · constructor
    · rintro ⟨⟨⟨⟨⟨⟨-, name⟩, source⟩, -⟩, -⟩, -⟩, -⟩
      refine ⟨name, ?_⟩
      rcases source with h | h
      · rw [name_source_of_sourceField h]
        exact name
      · exact h
    · intro h
      exact ⟨⟨⟨⟨⟨⟨trivial, h.1⟩, .inr h.2⟩, trivial⟩, trivial⟩, trivial⟩, trivial⟩
  · simp [statements, fields, fieldStatements]

private theorem nodup_fields (r : Region) : (r.fields.map (·.1)).Nodup := by
  have hsource : r.sourceField.map (·.1) = [] ∨ r.sourceField.map (·.1) = ["container"] ∨
      r.sourceField.map (·.1) = ["file"] := by
    unfold sourceField
    cases r.source with
    | container child => exact .inr (.inl rfl)
    | artifact file =>
      by_cases hfile : file = r.name
      · simp [hfile]
      · simp [hfile]
  simp only [fields, List.map_append]
  by_cases hcodec : r.codec = .none <;> rcases hsource with h | h | h <;> simp [h, hcodec]

end Region

namespace Container

def statements (c : Container) : List Statement :=
  .item ["container"] ::
    (fieldStatements [("name", .text c.name)] ++ c.regions.flatMap (·.statements))

def Named (p : String → Prop) (c : Container) : Prop := p c.name ∧ ∀ r ∈ c.regions, r.Named p

instance {p : String → Prop} [DecidablePred p] (c : Container) : Decidable (c.Named p) :=
  inferInstanceAs (Decidable (p c.name ∧ ∀ r ∈ c.regions, r.Named p))

private theorem lines_document {c : Container} (unescaped : c.Named Unescaped) :
    Lines c.document (c.Named Plain) c.statements := by
  have hname := lines_textLine "name" (by decide) unescaped.1
  have hregions := Lines.join fun r (hr : r ∈ c.regions) => r.lines_document (unescaped.2 r hr)
  refine ((lines_containerHeader.append hname).append hregions).of_eq rfl ?_ ?_
  · simp [Named]
  · simp [statements, fieldStatements]

def fields (c : Container) : Entries :=
  withTables [("name", .text c.name)] "region" (c.regions.map (·.fields))

private theorem headed_regions (regions : List Region) {rest : List Statement}
    (headed : Headed rest) :
    Headed (regions.flatMap (·.statements) ++ rest) := by
  cases regions with
  | nil => exact headed
  | cons r regions => exact headed_item _ _

private theorem headed_containers (cs : List Container) : Headed (cs.flatMap (·.statements)) := by
  cases cs with
  | nil => exact headed_nil
  | cons c cs => exact headed_item _ _

private theorem addStatements_regions {front : Entries} (new : "container" ∉ front.map (·.1))
    (containers : List Entries) (name : String) {rest : List Statement} (headed : Headed rest)
    (regions : List Region) (before : List Entries) :
    addStatements (withTables front "container"
        (containers ++ [withTables [("name", .text name)] "region" before]))
        (regions.flatMap (·.statements) ++ rest) =
      addStatements (withTables front "container" (containers ++
        [withTables [("name", .text name)] "region" (before ++ regions.map (·.fields))])) rest := by
  -- A header of a region belongs to the container that stands last, to which `before` has gone.
  induction regions generalizing before with
  | nil => simp
  | cons r regions ih =>
    have newRegion : "region" ∉ [("name", Value.text name)].map (·.1) := by simp
    have hadd := addItem_withTables_last new newRegion r.nodup_fields containers before
    rw [List.flatMap_cons, Region.statements, List.cons_append, List.cons_append,
      List.append_assoc, addStatements_item _ (headed_regions regions headed), hadd,
      Option.bind_some, ih, List.map_cons, List.append_assoc]
    rfl

private theorem addStatements_containers {front : Entries} (new : "container" ∉ front.map (·.1))
    (cs : List Container) (before : List Entries) :
    addStatements (withTables front "container" before) (cs.flatMap (·.statements)) =
      some (withTables front "container" (before ++ cs.map (·.fields))) := by
  induction cs generalizing before with
  | nil =>
    rw [List.flatMap_nil, List.map_nil, List.append_nil, addStatements]
  | cons c cs ih =>
    have hadd : addItem ["container"] (body [("name", .text c.name)])
        (withTables front "container" before) =
          some (withTables front "container" (before ++ [[("name", .text c.name)]])) :=
      addItem_withTables new (by simp) before
    have hname : withTables [("name", .text c.name)] "region" [] = [("name", .text c.name)] := rfl
    have hrest := headed_containers cs
    rw [List.flatMap_cons, statements, List.cons_append, List.append_assoc,
      addStatements_item _ (headed_regions c.regions hrest), hadd, Option.bind_some, ← hname,
      addStatements_regions new before c.name hrest, ih, List.nil_append, List.map_cons,
      List.append_assoc]
    rfl

end Container

namespace LayoutTree

def fields (t : LayoutTree) : Entries :=
  t.name.toList.map (fun n => ("name", .text n)) ++
    [("block_size", .integer t.blockSize.toNat)] ++
    t.padByte.toList.map fun b => ("pad_byte", .integer b.toNat)

def statements (t : LayoutTree) : List Statement :=
  .table ["layout"] :: (fieldStatements t.fields ++ t.containers.flatMap (·.statements))

def Named (p : String → Prop) (t : LayoutTree) : Prop :=
  (∀ n ∈ t.name, p n) ∧ ∀ c ∈ t.containers, c.Named p

instance {p : String → Prop} [DecidablePred p] (t : LayoutTree) : Decidable (t.Named p) :=
  inferInstanceAs (Decidable ((∀ n ∈ t.name, p n) ∧ ∀ c ∈ t.containers, c.Named p))

private theorem lines_document {t : LayoutTree} (unescaped : t.Named Unescaped) :
    Lines t.document (t.Named Plain) t.statements := by
  have hname := Lines.ofOption fun n hn =>
    lines_textLine "name" (by decide) (unescaped.1 n hn)
  have hsize := lines_hexLine "block_size" (by decide) 1
    (toNat_lt_integerLimit t.blockSize)
  have hpad : Lines ((t.padByte.map fun b => hexLine "pad_byte" 2 b.toNat).getD "")
      (∀ b ∈ t.padByte, True)
      (t.padByte.toList.flatMap fun b => [.entry ["pad_byte"] (.integer b.toNat)]) :=
    Lines.ofOption fun b _ => lines_hexLine _ (by decide) 2 (by
      have hlt := b.toNat_lt
      rw [integerLimit]
      omega)
  have hcontainers := Lines.join fun c (hc : c ∈ t.containers) =>
    c.lines_document (unescaped.2 c hc)
  refine ((((lines_layoutHeader.append hname).append hsize).append hpad).append
    hcontainers).of_eq rfl ?_ ?_
  · simp [Named]
  · cases hn : t.name <;> cases hb : t.padByte <;>
      simp [statements, fields, fieldStatements, hn, hb]

def entries (t : LayoutTree) : Entries :=
  withTables [("layout", .table .defined t.fields)] "container" (t.containers.map (·.fields))

private theorem nodup_fields (t : LayoutTree) : (t.fields.map (·.1)).Nodup := by
  cases hn : t.name <;> cases hb : t.padByte <;> simp [fields, hn, hb]

private theorem addStatements_statements (t : LayoutTree) :
    addStatements [] t.statements = some t.entries := by
  have hadd : addTable ["layout"] (body t.fields) [] =
      some (withTables [("layout", .table .defined t.fields)] "container" []) := by
    have hfields : Toml.addEntries (body t.fields) [] = some t.fields :=
      addEntries_body t.nodup_fields
    simp [addTable, changeAt, Entries.find?, hfields, withTables]
  rw [statements, addStatements_table _ (Container.headed_containers t.containers), hadd,
    Option.bind_some, Container.addStatements_containers (by simp)]
  rfl

/-- The document of a layout is read as its entries if all names are plain, and else not at all. -/
theorem readDocument_document {t : LayoutTree} (unescaped : t.Named Unescaped) :
    (t.Named Plain → readDocument t.document = some t.entries) ∧
      (¬t.Named Plain → readDocument t.document = none) := by
  have unmarked : dropMark t.document.toList = t.document.toList := by
    simp [document, dropMark]
  rw [← t.addStatements_statements]
  exact (lines_document unescaped).readDocument unmarked

end LayoutTree
end FlashImage
