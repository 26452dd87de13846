import FlashImage.Toml.Document
import Mathlib

/-!
How tables and arrays of tables grow, header by header.
-/

set_option autoImplicit false
set_option relaxedAutoImplicit false

namespace FlashImage.Toml

def body (fields : Entries) : List (List String × Value) := fields.map fun (key, v) => ([key], v)

def fieldStatements (fields : Entries) : List Statement :=
  fields.map fun (key, v) => .entry [key] v

def Headed (statements : List Statement) : Prop := takeEntries statements = ([], statements)

theorem headed_nil : Headed [] := rfl

theorem headed_item (path : List String) (rest : List Statement) : Headed (.item path :: rest) :=
  rfl

private theorem takeEntries_fields (fields : Entries) {rest : List Statement}
    (headed : Headed rest) :
    takeEntries (fieldStatements fields ++ rest) = (body fields, rest) := by
  induction fields with
  | nil => exact headed
  | cons field fields ih =>
    rw [fieldStatements, List.map_cons, List.cons_append, takeEntries]
    rw [fieldStatements] at ih
    rw [ih]
    rfl

private theorem insertNew_of_not_mem {key : String} {entries : Entries}
    (new : key ∉ entries.map (·.1))
    (v : Value) : entries.insertNew key v = some (entries ++ [(key, v)]) := by
  have hfind : entries.find? key = none := by
    rw [Entries.find?, List.lookup_eq_none_iff]
    intro p hp
    simp only [bne_iff_ne, ne_eq]
    rintro rfl
    exact new (List.mem_map_of_mem hp)
  rw [Entries.insertNew, hfind]
  rfl

theorem addEntries_body {fields entries : Entries}
    (distinct : ((entries ++ fields).map (·.1)).Nodup) :
    addEntries (body fields) entries = some (entries ++ fields) := by
  induction fields generalizing entries with
  | nil =>
    rw [List.append_nil]
    rfl
  | cons field fields ih =>
    obtain ⟨key, v⟩ := field
    have new : key ∉ entries.map (·.1) := by
      rw [List.map_append, List.nodup_append] at distinct
      exact fun hkey => distinct.2.2 key hkey key (by simp) rfl
    have hadd : addEntry [key] v entries = some (entries ++ [(key, v)]) :=
      insertNew_of_not_mem new v
    have happend : entries ++ (key, v) :: fields = (entries ++ [(key, v)]) ++ fields := by simp
    rw [body, List.map_cons, addEntries, hadd]
    rw [happend] at distinct ⊢
    exact ih distinct

section

variable {fields : Entries} {rest : List Statement}

theorem addStatements_table (path : List String) (headed : Headed rest) (entries : Entries) :
    addStatements entries (.table path :: (fieldStatements fields ++ rest)) =
      (addTable path (body fields) entries).bind fun entries => addStatements entries rest := by
  rw [addStatements, takeEntries_fields fields headed]
  rfl

theorem addStatements_item (path : List String) (headed : Headed rest) (entries : Entries) :
    addStatements entries (.item path :: (fieldStatements fields ++ rest)) =
      (addItem path (body fields) entries).bind fun entries => addStatements entries rest := by
  rw [addStatements, takeEntries_fields fields headed]
  rfl

end

def withTables (front : Entries) (key : String) (items : List Entries) : Entries :=
  front ++ if items = [] then [] else [(key, .tables items)]

section

variable {front fields : Entries} {key : String}

private theorem find?_append_of_not_mem (new : key ∉ front.map (·.1)) (entries : Entries) :
    Entries.find? (front ++ entries) key = Entries.find? entries key := by
  have hfront : front.lookup key = none := by
    rw [List.lookup_eq_none_iff]
    intro p hp
    simp only [bne_iff_ne, ne_eq]
    rintro rfl
    exact new (List.mem_map_of_mem hp)
  rw [Entries.find?, List.lookup_append, hfront]
  rfl

private theorem find?_withTables (new : key ∉ front.map (·.1)) (items : List Entries) :
    Entries.find? (withTables front key items) key =
      if items = [] then none else some (.tables items) := by
  rw [withTables, find?_append_of_not_mem new]
  split <;> simp [Entries.find?]

private theorem replace_withTables (new : key ∉ front.map (·.1)) {items items' : List Entries}
    (hitems : items ≠ []) (hitems' : items' ≠ []) :
    Entries.replace key (.tables items') (withTables front key items) =
      withTables front key items' := by
  rw [withTables, withTables, if_neg hitems, if_neg hitems', Entries.replace, List.map_append]
  congr 1
  · refine (List.map_congr_left fun p hp => ?_).trans (List.map_id front)
    have hp : p.1 ≠ key := by
      rintro rfl
      exact new (List.mem_map_of_mem hp)
    simp [hp]
  · simp

theorem addItem_withTables (new : key ∉ front.map (·.1)) (distinct : (fields.map (·.1)).Nodup)
    (items : List Entries) :
    addItem [key] (body fields) (withTables front key items) =
      some (withTables front key (items ++ [fields])) := by
  have hadd : addEntries (body fields) [] = some fields := addEntries_body distinct
  simp only [addItem, List.getLast?_singleton, List.dropLast_singleton, changeAt,
    find?_withTables new, hadd]
  by_cases hitems : items = []
  · subst hitems
    simp [withTables]
  · simp [hitems, replace_withTables new hitems]

theorem addItem_withTables_last {outer : String} {inner : Entries} (new : outer ∉ front.map (·.1))
    (newInner : key ∉ inner.map (·.1)) (distinct : (fields.map (·.1)).Nodup)
    (items subitems : List Entries) :
    addItem [outer, key] (body fields)
        (withTables front outer (items ++ [withTables inner key subitems])) =
      some (withTables front outer (items ++ [withTables inner key (subitems ++ [fields])])) := by
  have hinner := addItem_withTables newInner distinct subitems
  simp only [addItem, List.getLast?_singleton, List.dropLast_singleton, changeAt,
    Option.bind_eq_bind] at hinner
  have hitems : items ++ [withTables inner key subitems] ≠ [] := by simp
  have hlast : [outer, key].getLast? = some key := rfl
  have hfront : [outer, key].dropLast = [outer] := rfl
  simp only [addItem, hlast, hfront, changeAt, find?_withTables new, if_neg hitems,
    List.getLast?_append, List.getLast?_singleton]
  simp [replace_withTables new, hinner]

end

end FlashImage.Toml
