import FlashImage.Ron.Number

/-!
Sequences, values that are passed over, and records.

Nested values are counted, and a text that nests them too deeply is refused. The fields of a record
are read in the order of the text. A second field of a name is found at its name, and a missing
field at the end of the record.
-/

set_option autoImplicit false
set_option relaxedAutoImplicit false

namespace FlashImage.Ron

def readElements {δ : Type} (close : Char)
    (element : δ → List Char → Except Fault (δ × List Char)) :
    (limit : Nat) → (comma : Bool) → δ → List Char → Except Fault (δ × List Char)
  | 0, _, _, _ => .error .malformed
  | limit + 1, comma, d, s => do
    match ← skipBlank s with
    | [] => .error .malformed
    | c :: rest =>
      if c = close then .ok (d, rest)
      else if !comma then .error .malformed
      else
        let (d, rest) ← element d (c :: rest)
        let (comma, rest) ← readComma rest
        readElements close element limit comma d rest

def skipElements (close : Char) (element : List Char → Except Fault (List Char)) (s : List Char) :
    Except Fault (List Char) := do
  let ((), rest) ←
    readElements close (fun () s => do return ((), ← element s)) s.length true () s
  return rest

def skipColon (s : List Char) : Except Fault (List Char) := do
  skipBlank (← expect ':' (← skipBlank s))

/-- Whether the text behind an opening parenthesis gives fields with names. -/
def namesFields (s : List Char) : Except Fault Bool :=
  match name? s with
  | none => .ok false
  | some (_, rest) => do
    match ← skipBlank rest with
    | [] => .error .malformed
    | c :: _ => .ok (c == ':')

inductive Compound
  | sequence (close : Char)
  | fields
  | map

def Compound.close : Compound → Char
  | .sequence c => c
  | .fields => ')'
  | .map => '\x7d'

def openCompound : List Char → Except Fault (Option (Compound × List Char))
  | '[' :: rest => .ok (some (.sequence ']', rest))
  | '\x7b' :: rest => .ok (some (.map, rest))
  | '(' :: rest => do
    if ← namesFields (← skipBlank rest) then return some (.fields, rest)
    else return some (.sequence ')', rest)
  | _ => .ok none

def skipElement (value : List Char → Except Fault (List Char)) : Compound → List Char →
    Except Fault (List Char)
  | .sequence _, s => value s
  | .fields, s => do value (← skipColon (← readName s).2)
  | .map, s => do value (← skipColon (← value s))

def skipSimple : List Char → Except Fault (List Char)
  | '"' :: rest => do return (← readString ('"' :: rest)).2
  | 'r' :: rest => do return (← readString ('r' :: rest)).2
  | '\'' :: rest => readChar ('\'' :: rest)
  | c :: rest =>
    if c.isDigit || c == '+' || c == '-' then skipNumber (c :: rest)
    else if c == '.' then skipReal (c :: rest)
    else .error .malformed
  | [] => .error .malformed

def plainWords : List String := ["true", "false", "None", "inf", "NaN"]

/-- How values inside a value are skipped, if they may be there. -/
structure Inner where
  /-- An optional value that is given. -/
  given : List Char → Except Fault (List Char)
  /-- An element of a compound. -/
  element : List Char → Except Fault (List Char)
  /-- Whether there may be a compound. -/
  compounds : Bool

/-- Skips an optional value behind the word for a given one. The parentheses around it may be left
out if optional values need no word. -/
def Inner.skipGiven (inner : Inner) (implicitSome : Bool) (s : List Char) :
    Except Fault (List Char) := do
  match ← skipBlank s with
  | '(' :: rest =>
    let (_, rest) ← readComma (← inner.given (← skipBlank rest))
    expect ')' rest
  | rest => if implicitSome then inner.given rest else .error .malformed

def Inner.skipRest (inner : Inner) (s : List Char) : Except Fault (List Char) := do
  match ← openCompound s with
  | none => skipSimple s
  | some (compound, rest) =>
    if inner.compounds then skipElements compound.close (skipElement inner.element compound) rest
    else .error .malformed

def Inner.skip (inner : Inner) (implicitSome : Bool) (s : List Char) : Except Fault (List Char) :=
  match plainWords.findSome? (behindWord? · s), behindWord? "Some" s, behind? ['(', ')'] s with
  | some rest, _, _ => .ok rest
  | none, some rest, _ => inner.skipGiven implicitSome rest
  | none, none, some rest => .ok rest
  | none, none, none =>
    match name? s with
    | none => inner.skipRest s
    | some (_, rest) => do
      match ← skipBlank rest with
      | '(' :: rest => inner.skipRest ('(' :: rest)
      | rest => .ok rest

def refuse (_ : List Char) : Except Fault (List Char) := .error .malformed

/-- Skips a value in which at most `depth` levels of values are nested. A compound is a level, and
what it holds is another. -/
def skipValue (implicitSome : Bool) : (depth : Nat) → List Char → Except Fault (List Char)
  | 0 => Inner.skip ⟨refuse, refuse, false⟩ implicitSome
  | 1 => Inner.skip ⟨skipValue implicitSome 0, refuse, true⟩ implicitSome
  | depth + 2 =>
    Inner.skip ⟨skipValue implicitSome (depth + 1), skipValue implicitSome depth, true⟩
      implicitSome

/-- How a record is read into a draft, field by field. -/
structure Record (δ α : Type) where
  /-- The name of the record. -/
  name : String
  /-- The draft without any field. -/
  start : δ
  /-- Reads the value of a field, if the record has a field of that name. -/
  field? : String → Option (δ → List Char → Except Fault (δ × List Char))
  /-- The record, if no field is missing. -/
  finish : δ → Except Fault α

def openRecord (record : String) : List Char → Except Fault (List Char)
  | '(' :: rest => .ok rest
  | s => do
    let (name, rest) ← readName s
    if name = record then expect '(' (← skipBlank rest) else .error .malformed

/-- Reads a field of a record. Of the names in `seen` no second value is accepted. -/
def Record.readField {δ α : Type} (r : Record δ α) (skip : List Char → Except Fault (List Char)) :
    δ × List String → List Char → Except Fault ((δ × List String) × List Char)
  | (d, seen), s => do
    let (key, rest) ← readName s
    match r.field? key with
    | none => return ((d, seen), ← skip (← skipColon rest))
    | some read =>
      if key ∈ seen then .error (.duplicateField key r.name)
      else
        let (d, rest) ← read d (← skipColon rest)
        return ((d, key :: seen), rest)

/-- Reads a record, in which unknown fields have values as `skip` accepts them. -/
def Record.read {δ α : Type} (r : Record δ α) (skip : List Char → Except Fault (List Char))
    (s : List Char) : Except Fault (α × List Char) := do
  let rest ← openRecord r.name s
  let ((d, _), rest) ← readElements ')' (r.readField skip) rest.length true (r.start, []) rest
  return (← r.finish d, rest)

def required {α : Type} (record field : String) : Option α → Except Fault α
  | some a => .ok a
  | none => .error (.missingField field record)

end FlashImage.Ron
