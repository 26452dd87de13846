import FlashImage.Layout.Document
import FlashImage.Proofs.Board.Plan
import Std.Data.HashMap

/-!
Layouts that keep the positions of their containers in an index.

A layout goes through its containers to find one by its name. Here the position of each name is kept
in an index beside the containers. Nothing ties the two together but the calls that change them, one
after the other: a layout with an index mirrors a layout if its index leads to the containers, and
every call keeps that, be it accepted or rejected. So do documents and boards, whose layouts come
about by such calls.
-/

set_option autoImplicit false
set_option relaxedAutoImplicit false

namespace FlashImage

/-- A layout with the positions of its containers by their names. -/
structure IndexedLayout where
  name : Option String
  blockSize : UInt32
  padByte : Option UInt8
  containers : Array Container
  index : Std.HashMap String Nat

/-- What becomes of looking a name up. -/
inductive Lookup
  | found (c : Container)
  | absent
  /-- The index leads to a position at which there is no container. -/
  | outOfRange (position : Nat)
  deriving DecidableEq

abbrev Indexing (α : Type) := ExceptT Error (StateM IndexedLayout) α

namespace IndexedLayout

def empty (name : Option String) (blockSize : UInt32) (padByte : Option UInt8) : IndexedLayout :=
  ⟨name, blockSize, padByte, #[], ∅⟩

def length (s : IndexedLayout) : Nat := s.containers.size

def final? (s : IndexedLayout) : Option Container := s.containers.back?

def find (s : IndexedLayout) (name : String) : Lookup :=
  match s.index[name]? with
  | none => .absent
  | some position =>
    match s.containers[position]? with
    | none => .outOfRange position
    | some c => .found c

/-- Appends a container, unless the index has its name. The index is changed before the container is
there. -/
def add (c : Container) : Indexing Unit := do
  if (← get).index.contains c.name then throw (.configuration (.duplicateContainer c.name))
  modify fun s => { s with index := s.index.insert c.name s.containers.size }
  modify fun s => { s with containers := s.containers.push c }

/-- Appends containers in order, up to the first name that is taken. -/
def addAll : List Container → Indexing Unit
  | [] => return ()
  | c :: rest => do
    add c
    addAll rest

def addEach : List Container → StateM IndexedLayout (List (Except Error Unit))
  | [] => return []
  | c :: rest => do
    let first ← (add c).run
    let others ← addEach rest
    return first :: others

def addEntries : List ContainerEntry → Indexing Unit
  | [] => return ()
  | entry :: rest => do
    let regions ← ofExcept (RegionEntry.regions entry.name entry.regions)
    add ⟨entry.name, regions⟩
    addEntries rest

def after (step : Indexing Unit) (s : IndexedLayout) : Except Error IndexedLayout :=
  match step s with
  | (.ok (), s) => .ok s
  | (.error e, _) => .error e

def read (text : String) : Except Error IndexedLayout := do
  let d ← (Toml.readLayoutDocument text).mapError fun fault =>
    Error.unreadable "TOML layout" (.layout fault)
  after (addEntries d.containers) (empty d.layout.name d.layout.blockSize d.layout.padByte)

end IndexedLayout

def Board.indexedLayout (b : Board) : Except Error IndexedLayout :=
  match b.containers with
  | .error e => .error e
  | .ok cs =>
    IndexedLayout.after (IndexedLayout.addAll cs)
      (IndexedLayout.empty (some b.name) b.blockSize (some b.padByte))

/-- Appends containers in order and gives the answers, where a call that is rejected leaves the
layout as it is. -/
def LayoutTree.addEach (t : LayoutTree) :
    List Container → List (Except Error Unit) × LayoutTree
  | [] => ([], t)
  | c :: rest =>
    match t.add c with
    | .error e => (.error e :: (t.addEach rest).1, (t.addEach rest).2)
    | .ok t => (.ok () :: (t.addEach rest).1, (t.addEach rest).2)

/-- The containers of the calls that have been accepted. -/
def LayoutTree.accepted (cs : List Container) (answers : List (Except Error Unit)) :
    List Container :=
  ((cs.zip answers).filter (·.2.isOk)).map (·.1)

namespace IndexedLayout

variable {s : IndexedLayout} {t : LayoutTree} {c : Container} {name : String}

/-- The index has the position of every container of a layout, and no other position. -/
structure Indexes (s : IndexedLayout) (t : LayoutTree) : Prop where
  name : s.name = t.name
  blockSize : s.blockSize = t.blockSize
  padByte : s.padByte = t.padByte
  containers : s.containers.toList = t.containers
  position : ∀ (key : String) (i : Nat),
    s.index[key]? = some i ↔ ∃ c : Container, t.containers[i]? = some c ∧ c.name = key

private theorem getElem?_concat_iff {α : Type} {xs : List α} {x y : α} {i : Nat} :
    (xs ++ [x])[i]? = some y ↔ xs[i]? = some y ∨ i = xs.length ∧ y = x := by
  rw [List.getElem?_append]
  split
  · rename_i hlt
    simp [Nat.ne_of_lt hlt]
  · rename_i hle
    rw [List.getElem?_eq_none (Nat.le_of_not_lt hle), List.getElem?_singleton]
    grind

namespace Indexes

theorem empty (name : Option String) (blockSize : UInt32) (padByte : Option UInt8) :
    (IndexedLayout.empty name blockSize padByte).Indexes (.empty name blockSize padByte) where
  name := rfl
  blockSize := rfl
  padByte := rfl
  containers := rfl
  position := by simp [IndexedLayout.empty, LayoutTree.empty]

private theorem contains_iff (h : s.Indexes t) : s.index.contains name ↔ name ∈ t.names := by
  rw [Std.HashMap.contains_eq_isSome_getElem?, Option.isSome_iff_exists, LayoutTree.names,
    List.mem_map]
  constructor
  · rintro ⟨i, hi⟩
    obtain ⟨c, hc, hname⟩ := (h.position name i).1 hi
    exact ⟨c, List.mem_of_getElem? hc, hname⟩
  · rintro ⟨c, hc, hname⟩
    obtain ⟨i, hi⟩ := List.mem_iff_getElem?.1 hc
    exact ⟨i, (h.position name i).2 ⟨c, hi, hname⟩⟩

private theorem find_of_mem (h : s.Indexes t) (hc : c ∈ t.containers) :
    s.find c.name = .found c := by
  obtain ⟨i, hi⟩ := List.mem_iff_getElem?.1 hc
  have hposition : s.index[c.name]? = some i := (h.position c.name i).2 ⟨c, hi, rfl⟩
  have hcontainer : s.containers[i]? = some c := by
    rw [← Array.getElem?_toList, h.containers, hi]
  simp only [find, hposition, hcontainer]

private theorem find_of_not_mem (h : s.Indexes t) (hname : name ∉ t.names) :
    s.find name = .absent := by
  have hposition : s.index[name]? = none := by
    rw [← Option.not_isSome_iff_eq_none, ← Std.HashMap.contains_eq_isSome_getElem?,
      h.contains_iff]
    exact hname
  simp only [find, hposition]

private theorem add_of_mem (h : s.Indexes t) (hc : c.name ∈ t.names) :
    add c s = (.error (.configuration (.duplicateContainer c.name)), s) := by
  have hget : (get : Indexing IndexedLayout) s = (.ok s, s) := rfl
  rw [add, bind_eq_of_ok hget, if_pos (h.contains_iff.2 hc)]
  rfl

private theorem add_of_not_mem (h : s.Indexes t) (hc : c.name ∉ t.names) :
    ∃ s' t', add c s = (.ok (), s') ∧ t.add c = .ok t' ∧ s'.Indexes t' ∧
      t'.containers = t.containers ++ [c] := by
  have hget : (get : Indexing IndexedLayout) s = (.ok s, s) := rfl
  refine ⟨{ s with
    index := s.index.insert c.name s.containers.size
    containers := s.containers.push c }, _, ?_, dif_neg hc, ?_, rfl⟩
  · rw [add, bind_eq_of_ok hget, if_neg (mt h.contains_iff.1 hc)]
    rfl
  · refine ⟨h.name, h.blockSize, h.padByte, ?_, fun name i => ?_⟩
    · rw [Array.toList_push, h.containers]
    · have hlength : s.containers.size = t.containers.length := by
        rw [← h.containers, Array.length_toList]
      simp only [Std.HashMap.getElem?_insert, hlength, beq_iff_eq, getElem?_concat_iff, or_and_right,
        exists_or]
      split
      · rename_i heq
        subst heq
        -- No container has the name yet, so the new position is the only one of it.
        have hold : ¬ ∃ d : Container, t.containers[i]? = some d ∧ d.name = c.name := by
          rintro ⟨d, hd, hname⟩
          exact hc (hname ▸ List.mem_map_of_mem (List.mem_of_getElem? hd))
        rw [or_iff_right hold, Option.some_inj]
        constructor
        · rintro rfl
          exact ⟨c, ⟨rfl, rfl⟩, rfl⟩
        · rintro ⟨d, ⟨hi, -⟩, -⟩
          exact hi.symm
      · rename_i hne
        -- All other names keep their positions.
        rw [h.position name i, or_iff_left]
        rintro ⟨d, ⟨-, rfl⟩, hname⟩
        exact hne hname

end Indexes

/-- A layout with an index and a layout without one have the same containers, find the same ones and
accept the same ones. -/
structure Mirrors (s : IndexedLayout) (t : LayoutTree) : Prop where
  header : s.name = t.name ∧ s.blockSize = t.blockSize ∧ s.padByte = t.padByte
  containers : s.containers.toList = t.containers
  distinct : (s.containers.toList.map (·.name)).Nodup
  length : s.length = t.containers.length
  final : s.final? = t.final?
  found : ∀ c ∈ t.containers, s.find c.name = .found c ∧ t.find? c.name = some c
  absent : ∀ name, name ∉ t.names → s.find name = .absent ∧ t.find? name = none
  rejects : ∀ c, c.name ∈ t.names →
    add c s = (.error (.configuration (.duplicateContainer c.name)), s) ∧
      t.add c = .error (.configuration (.duplicateContainer c.name))
  accepts : ∀ c, c.name ∉ t.names → ∃ s' t', add c s = (.ok (), s') ∧ t.add c = .ok t' ∧
    s'.containers = s.containers.push c ∧ t'.containers = t.containers ++ [c]

private theorem Indexes.mirrors (h : s.Indexes t) : s.Mirrors t where
  header := ⟨h.name, h.blockSize, h.padByte⟩
  containers := h.containers
  distinct := h.containers ▸ t.distinct
  length := by rw [length, ← Array.length_toList, h.containers]
  final := by rw [final?, ← Array.getLast?_toList, h.containers, LayoutTree.final?]
  found := fun c hc => ⟨h.find_of_mem hc, LayoutTree.find?_name hc⟩
  absent := by
    intro name hname
    refine ⟨h.find_of_not_mem hname, ?_⟩
    cases hfind : t.find? name with
    | none => rfl
    | some c => exact absurd (LayoutTree.mem_names_of_find? hfind) hname
  rejects := fun c hc => ⟨h.add_of_mem hc, dif_pos hc⟩
  accepts := by
    intro c hc
    obtain ⟨s', t', hs, ht, hindexes, hcontainers⟩ := h.add_of_not_mem hc
    refine ⟨s', t', hs, ht, ?_, hcontainers⟩
    rw [← Array.toList_inj, Array.toList_push, hindexes.containers, hcontainers, h.containers]

/-- A step over a layout with an index ends like a function of a layout without one. -/
inductive SameEnd : Except Error Unit × IndexedLayout → Except Error LayoutTree → Prop
  | error (e : Error) (s : IndexedLayout) : SameEnd (.error e, s) (.error e)
  | ok {s : IndexedLayout} {t : LayoutTree} (indexes : s.Indexes t) : SameEnd (.ok (), s) (.ok t)

def Follows (step : Indexing Unit) (plain : LayoutTree → Except Error LayoutTree) : Prop :=
  ∀ s t, s.Indexes t → SameEnd (step s) (plain t)

private theorem follows_return : Follows (return ()) .ok := fun _ _ h => .ok h

theorem follows_throw (e : Error) : Follows (throw e) fun _ => .error e := fun s _ _ => .error e s

private theorem Indexes.sameEnd_add (h : s.Indexes t) (c : Container) :
    SameEnd (add c s) (t.add c) := by
  by_cases hc : c.name ∈ t.names
  · have ht : t.add c = .error (.configuration (.duplicateContainer c.name)) := dif_pos hc
    rw [h.add_of_mem hc, ht]
    exact .error _ s
  · obtain ⟨s', t', hs, ht, hindexes, -⟩ := h.add_of_not_mem hc
    rw [hs, ht]
    exact .ok hindexes

private theorem follows_add (c : Container) : Follows (add c) (·.add c) :=
  fun _ _ h => h.sameEnd_add c

theorem Follows.bind {step next : Indexing Unit}
    {plain following : LayoutTree → Except Error LayoutTree} (hstep : Follows step plain)
    (hnext : Follows next following) :
    Follows (step >>= fun _ => next) fun t => plain t >>= following := by
  intro s t h
  have hend := hstep s t h
  generalize hs : step s = run at hend
  change SameEnd _ (plain t >>= following)
  generalize plain t = result at hend
  cases hend with
  | error e s₁ =>
    rw [bind_eq_of_error hs]
    exact .error e s₁
  | ok hindexes =>
    rw [bind_eq_of_ok hs]
    exact hnext _ _ hindexes

private theorem follows_addAll (cs : List Container) : Follows (addAll cs) (·.addAll cs) := by
  induction cs with
  | nil => exact follows_return
  | cons c rest ih =>
    have hplain : (fun t : LayoutTree => t.addAll (c :: rest)) =
        fun t => t.add c >>= (·.addAll rest) := by
      funext t
      rw [LayoutTree.addAll]
      cases t.add c <;> rfl
    rw [addAll, hplain]
    exact (follows_add c).bind ih

private theorem follows_addEntries (entries : List ContainerEntry) :
    Follows (addEntries entries) (·.addEntries entries) := by
  induction entries with
  | nil => exact follows_return
  | cons entry rest ih =>
    simp only [addEntries, LayoutTree.addEntries]
    cases RegionEntry.regions entry.name entry.regions with
    | error e => exact follows_throw e
    | ok regions => exact (follows_add ⟨entry.name, regions⟩).bind ih

theorem Follows.after {step : Indexing Unit} {plain : LayoutTree → Except Error LayoutTree}
    (hstep : Follows step plain) (h : s.Indexes t) :
    (∃ e, after step s = .error e ∧ plain t = .error e) ∨
      ∃ s' t', after step s = .ok s' ∧ plain t = .ok t' ∧ s'.Mirrors t' := by
  have hend := hstep s t h
  unfold IndexedLayout.after
  generalize step s = run at hend
  generalize plain t = result at hend
  cases hend with
  | error e s₁ => exact .inl ⟨e, rfl, rfl⟩
  | ok hindexes => exact .inr ⟨_, _, rfl, rfl, hindexes.mirrors⟩

private theorem Indexes.addEach (h : s.Indexes t) (cs : List Container) :
    (addEach cs s).1 = (t.addEach cs).1 ∧ (addEach cs s).2.Indexes (t.addEach cs).2 := by
  induction cs generalizing s t with
  | nil => exact ⟨rfl, h⟩
  | cons c rest ih =>
    have hrun : IndexedLayout.addEach (c :: rest) s =
        ((add c s).1 :: (IndexedLayout.addEach rest (add c s).2).1,
          (IndexedLayout.addEach rest (add c s).2).2) := rfl
    rw [hrun, LayoutTree.addEach]
    by_cases hc : c.name ∈ t.names
    · have ht : t.add c = .error (.configuration (.duplicateContainer c.name)) := dif_pos hc
      obtain ⟨hanswers, hindexes⟩ := ih h
      simp only [h.add_of_mem hc, ht, hanswers, true_and]
      exact hindexes
    · obtain ⟨s', t', hs, ht, hindexes, -⟩ := h.add_of_not_mem hc
      obtain ⟨hanswers, hrest⟩ := ih hindexes
      simp only [hs, ht, hanswers, true_and]
      exact hrest

end IndexedLayout

def ContainerEntry.Describes (entry : ContainerEntry) (c : Container) : Prop :=
  c.name = entry.name ∧ RegionEntry.regions entry.name entry.regions = .ok c.regions

def LayoutDocument.Describes (d : LayoutDocument) (cs : List Container) : Prop :=
  List.Forall₂ ContainerEntry.Describes d.containers cs

namespace LayoutTree

open StitchSetting (bind_eq_ok)

variable {t t' : LayoutTree}

private theorem containers_of_addEach (t : LayoutTree) (cs : List Container) :
    (t.addEach cs).2.containers = t.containers ++ accepted cs (t.addEach cs).1 := by
  induction cs generalizing t with
  | nil => exact (List.append_nil _).symm
  | cons c rest ih =>
    rw [addEach]
    cases hadd : t.add c with
    | error e => exact ih t
    | ok t₁ =>
      have hrest := ih t₁
      rw [containers_of_add hadd, List.append_assoc] at hrest
      exact hrest

private theorem containers_of_addEntries {entries : List ContainerEntry}
    (h : t.addEntries entries = .ok t') :
    ∃ cs, t'.containers = t.containers ++ cs ∧
      List.Forall₂ ContainerEntry.Describes entries cs := by
  induction entries generalizing t with
  | nil =>
    cases h
    exact ⟨[], (List.append_nil _).symm, .nil⟩
  | cons entry rest ih =>
    obtain ⟨regions, hregions, hadded⟩ := bind_eq_ok.1 h
    obtain ⟨t₁, hadd, hrest⟩ := bind_eq_ok.1 hadded
    obtain ⟨cs, hcontainers, hdescribed⟩ := ih hrest
    refine ⟨⟨entry.name, regions⟩ :: cs, ?_, .cons ⟨rfl, hregions⟩ hdescribed⟩
    rw [hcontainers, containers_of_add hadd, List.append_assoc, List.singleton_append]

private theorem describes_of_ofDocument {d : LayoutDocument} (h : ofDocument d = .ok t) :
    d.Describes t.containers := by
  obtain ⟨cs, hcontainers, hdescribed⟩ := containers_of_addEntries h
  rw [hcontainers]
  exact hdescribed

end LayoutTree

namespace IndexedLayout

/-- Whatever containers are added to a new layout, its index mirrors its containers, which are those
of the accepted calls, and the layout does what one without an index does. So do the layouts of
documents and of boards. -/
theorem mirrors_of_calls :
    (∀ name blockSize padByte cs,
      let indexed := addEach cs (empty name blockSize padByte)
      let plain := (LayoutTree.empty name blockSize padByte).addEach cs
      indexed.1 = plain.1 ∧ indexed.2.Mirrors plain.2 ∧
        plain.2.containers = LayoutTree.accepted cs plain.1) ∧
    (∀ text,
      (∃ e, read text = .error e ∧ LayoutTree.read text = .error e) ∨
        ∃ s t d, read text = .ok s ∧ LayoutTree.read text = .ok t ∧ s.Mirrors t ∧
          Toml.readLayoutDocument text = .ok d ∧ d.Describes t.containers) ∧
    ∀ b : Board,
      (∃ e, b.indexedLayout = .error e ∧ b.layout = .error e) ∨
        ∃ s t, b.indexedLayout = .ok s ∧ b.layout = .ok t ∧ s.Mirrors t ∧
          b.containers = .ok t.containers := by
  refine ⟨fun name blockSize padByte cs => ?_, fun text => ?_, fun b => ?_⟩
  · obtain ⟨hanswers, hindexes⟩ := (Indexes.empty name blockSize padByte).addEach cs
    exact ⟨hanswers, hindexes.mirrors, LayoutTree.containers_of_addEach _ cs⟩
  · rw [read, LayoutTree.read]
    cases hd : Toml.readLayoutDocument text with
    | error fault => exact .inl ⟨_, rfl, rfl⟩
    | ok d =>
      have h := (follows_addEntries d.containers).after
        (Indexes.empty d.layout.name d.layout.blockSize d.layout.padByte)
      rcases h with ⟨e, hs, ht⟩ | ⟨s, t, hs, ht, hmirrors⟩
      · exact .inl ⟨e, hs, ht⟩
      · exact .inr ⟨s, t, d, hs, ht, hmirrors, rfl, LayoutTree.describes_of_ofDocument ht⟩
  · rw [Board.indexedLayout, Board.layout]
    cases hcs : b.containers with
    | error e => exact .inl ⟨e, rfl, rfl⟩
    | ok cs =>
      have h := (follows_addAll cs).after
        (Indexes.empty (some b.name) b.blockSize (some b.padByte))
      rcases h with ⟨e, hs, ht⟩ | ⟨s, t, hs, ht, hmirrors⟩
      · exact .inl ⟨e, hs, ht⟩
      · refine .inr ⟨s, t, hs, ht, hmirrors, ?_⟩
        rw [LayoutTree.containers_of_addAll ht]
        rfl

/-- A call with a name that is taken changes nothing for the calls behind it. -/
example :
    let run := addEach [⟨"A", []⟩, ⟨"A", [.ofArtifact "X" 4096]⟩, ⟨"B", []⟩] (empty none 4096 none)
    run.1 = [.ok (), .error (.configuration (.duplicateContainer "A")), .ok ()] ∧
      run.2.find "A" = .found ⟨"A", []⟩ ∧ run.2.find "B" = .found ⟨"B", []⟩ := by
  cbv

end IndexedLayout
end FlashImage
