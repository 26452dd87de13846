import FlashImage.Shell.Records.Value
import Std.Data.HashMap

/-!
Tables: values by their keys.

The keys of a table have an order, in which they are gone through. Keys are put into buckets by a
hash of their texts, and a key that has been looked up is the first one in its bucket. Keys that are
whole numbers have buckets of their own as long as no text has been looked up. A table that has been
filled with texts in a row keeps them without buckets until something else is looked up.
-/

set_option autoImplicit false
set_option relaxedAutoImplicit false

namespace FlashImage.Shell.Records

/-- A table. -/
structure Table where
  values : Std.HashMap String Value
  /-- The number of buckets. -/
  width : Nat
  /-- The number of values in a row, as long as the keys are in no buckets. -/
  row : Option Nat
  /-- Whether all keys are in the buckets for texts. -/
  isNamed : Bool
  names : Array (List String)
  numbers : Array (List Int)

namespace Table

def leastWidth : Nat := 64

def bucketLimit : Nat := 12

def empty : Table :=
  ⟨∅, leastWidth, none, false, Array.replicate leastWidth [], Array.replicate leastWidth []⟩

def hash (s : String) : Nat :=
  s.toList.foldl (fun h c => ((h ^^^ c.toNat) * 16777619) % 4294967296) 2166136261

def nameBucket (t : Table) (s : String) : Nat := hash s % t.width

def numberBucket (t : Table) (n : Int) : Nat := (n % (t.width : Int)).toNat

def raiseName (t : Table) (s : String) : Table :=
  { t with names := t.names.modify (t.nameBucket s) fun all => s :: all.filter (· ≠ s) }

def raiseNumber (t : Table) (n : Int) : Table :=
  { t with numbers := t.numbers.modify (t.numberBucket n) fun all => n :: all.filter (· ≠ n) }

def widen (t : Table) : Table :=
  let wide := { t with width := 2 * t.width }
  let names := t.names.toList.map fun all => all.partition fun s => wide.nameBucket s < t.width
  let numbers := t.numbers.toList.map fun all =>
    all.partition fun n => wide.numberBucket n < t.width
  { wide with
    names := ((names.map (·.1)) ++ (names.map (·.2))).toArray
    numbers := ((numbers.map (·.1)) ++ (numbers.map (·.2))).toArray }

def bucketed (t : Table) : Table :=
  match t.row with
  | none => t
  | some n =>
    let width := (List.range 40).foldl (fun w _ => if w * bucketLimit < n then 2 * w else w)
      leastWidth
    let t := { t with
      row := none, width := width, isNamed := false, names := Array.replicate width [],
      numbers := Array.replicate width [] }
    (List.range n).foldl (fun t (i : Nat) => t.raiseNumber ((i : Int) + 1)) t

def named (t : Table) : Table :=
  let t := t.bucketed
  if t.isNamed then t
  else { t.numbers.toList.flatten.foldl (fun t n => t.raiseName (toString n)) t with isNamed := true }

def keys (t : Table) : List String := t.named.names.toList.flatten

def numberOf? (v : Value) : Option Int :=
  match v with
  | .number x =>
    let n := wholeOf x
    if (wholeText? x).isSome && decide (n.natAbs < 2147483648) then some n else none
  | _ => none

def checked (t : Table) : Table := if t.width * bucketLimit < t.values.size then t.widen else t

/-- Looks a key up that is a text. Only a key that is there is raised. -/
def lookUpName (t : Table) (s : String) : Table :=
  let t := t.named
  if t.values.contains s then t.raiseName s else t

def lookUp (t : Table) (key : Value) (text : String) : Table :=
  match numberOf? key with
  | none => t.lookUpName text
  | some n =>
    match t.row with
    | some size => if 1 ≤ n ∧ n ≤ size then t else t.bucketed
    | none =>
      let t := if t.isNamed then t.lookUpName text else t
      if t.values.contains text then t.raiseNumber n else t

def put (t : Table) (key : Value) (text : String) (v : Value) : Table :=
  if t.values.contains text then
    let t := t.lookUp key text
    { t with values := t.values.insert text v }
  else
    match numberOf? key, t.row with
    | some n, some size =>
      if n = (size : Int) + 1 then
        { t with row := some (size + 1), values := t.values.insert text v }
      else
        let t := t.bucketed
        { t with values := t.values.insert text v }.raiseNumber n |>.checked
    | some n, none =>
      let t := { t with values := t.values.insert text v }
      let t := if t.isNamed then t.raiseName text else t
      (t.raiseNumber n).checked
    | none, _ =>
      let t := t.named
      { t with values := t.values.insert text v }.raiseName text |>.checked

def erase (t : Table) (text : String) : Table :=
  if !t.values.contains text then t
  else
    let t := t.bucketed
    let strip (all : List String) : List String := all.filter (· ≠ text)
    { t with
      values := t.values.erase text
      names := t.names.map strip
      numbers := t.numbers.map fun all => all.filter fun n => toString n ≠ text }

/-- The table of texts in a row, with the numbers from one on as keys. -/
def ofTexts (texts : List String) : Table :=
  let values := texts.zipIdx.foldl (fun (m : Std.HashMap String Value) (s, i) =>
    m.insert (toString (i + 1)) (.outside s)) ∅
  { empty with values := values, row := some texts.length }

end Table
end FlashImage.Shell.Records
