import FlashImage.Toml.Value

/-!
Tables under construction: where the entries and the headers of a document lead.

No key of a table is given twice, and a table is extended only as its form allows: one in braces
not at all, and one with a header of its own by further headers but not by dotted keys.
-/

set_option autoImplicit false
set_option relaxedAutoImplicit false

namespace FlashImage.Toml

namespace Entries

def find? (entries : Entries) (key : String) : Option Value := entries.lookup key

def replace (key : String) (v : Value) (entries : Entries) : Entries :=
  entries.map fun (k, old) => (k, if k = key then v else old)

def erase (key : String) (entries : Entries) : Entries := entries.filter (·.1 ≠ key)

def insertNew (key : String) (v : Value) (entries : Entries) : Option Entries :=
  if (entries.find? key).isSome then none else some (entries ++ [(key, v)])

end Entries

/-- Whether a path of headers or of dotted keys may lead through a table. -/
def TableForm.passable : (dotted : Bool) → TableForm → Bool
  | _, .inline => false
  | true, .defined => false
  | false, .defined => true
  | _, .implied => true
  | _, .dotted => true

/-- Changes the table to which a path leads from a table. Tables that are not there are made, and
an array of tables stands for its last one. -/
def changeAt (dotted : Bool) (change : TableForm → Entries → Option Entries) :
    (path : List String) → TableForm → Entries → Option Entries
  | [], form, entries => change form entries
  | key :: path, _, entries =>
    match entries.find? key with
    | none => do
      let form := if dotted then TableForm.dotted else .implied
      let inner ← changeAt dotted change path form []
      some (entries ++ [(key, .table form inner)])
    | some (.table form inner) =>
      if form.passable dotted then do
        let inner ← changeAt dotted change path form inner
        some (Entries.replace key (.table form inner) entries)
      else none
    | some (.tables items) =>
      match items.getLast? with
      | none => none
      | some last => do
        let last ← changeAt dotted change path .defined last
        some (Entries.replace key (.tables (items.dropLast ++ [last])) entries)
    | some _ => none

/-- Adds a value under a path of names. The last table on the path has to be one made by dotted
keys, unless the path has one name only. -/
def addEntry (path : List String) (v : Value) (entries : Entries) : Option Entries :=
  match path.getLast? with
  | none => none
  | some key =>
    let parents := path.dropLast
    changeAt true (fun form inner =>
      if parents.isEmpty || form == .dotted then inner.insertNew key v else none)
      parents .defined entries

def addEntries : List (List String × Value) → Entries → Option Entries
  | [], entries => some entries
  | (path, v) :: rest, entries => do addEntries rest (← addEntry path v entries)

/-- Adds a table under a header of its own. A table that longer headers have led through is taken
out, completed and put at the end. -/
def addTable (path : List String) (body : List (List String × Value)) (entries : Entries) :
    Option Entries :=
  match path.getLast? with
  | none => none
  | some key =>
    changeAt false (fun _ parent =>
      match parent.find? key with
      | none => do
        let inner ← addEntries body []
        some (parent ++ [(key, .table .defined inner)])
      | some (.table .implied inner) => do
        let inner ← addEntries body inner
        some (Entries.erase key parent ++ [(key, .table .defined inner)])
      | some _ => none)
      path.dropLast .defined entries

/-- Adds a table to the array of tables under a header. -/
def addItem (path : List String) (body : List (List String × Value)) (entries : Entries) :
    Option Entries :=
  match path.getLast? with
  | none => none
  | some key =>
    changeAt false (fun _ parent =>
      match parent.find? key with
      | none => do
        let inner ← addEntries body []
        some (parent ++ [(key, .tables [inner])])
      | some (.tables items) => do
        let inner ← addEntries body []
        some (Entries.replace key (.tables (items ++ [inner])) parent)
      | some _ => none)
      path.dropLast .defined entries

end FlashImage.Toml
