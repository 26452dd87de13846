import FlashImage.Layout.Tree
import FlashImage.Region.Setting
import FlashImage.Toml.Document

/-!
Layouts as TOML documents.

A document is read in its own order, so the first fault in it is the one that is reported. Missing
fields are found at the end of their record, in the order in which the record lists its fields. A
record may also be written as an array of its fields in that order. Fields of other names are passed
over.
-/

set_option autoImplicit false
set_option relaxedAutoImplicit false

namespace FlashImage

structure RegionEntry where
  name : String
  file : Option String
  container : Option String
  size : UInt32
  codec : Option String
  policy : Option String
  position : Option String
  deriving DecidableEq, Repr

structure ContainerEntry where
  name : String
  regions : List RegionEntry
  deriving DecidableEq, Repr

structure LayoutEntry where
  name : Option String
  blockSize : UInt32
  padByte : Option UInt8
  deriving DecidableEq, Repr

structure LayoutDocument where
  layout : LayoutEntry
  containers : List ContainerEntry
  deriving DecidableEq, Repr

namespace Toml

def readText : Value → Except Fault String
  | .text s => .ok s
  | v => .error (.wrongKind v.described .text)

def word32? (n : Int) : Option UInt32 :=
  if 0 ≤ n ∧ n < UInt32.size then some (UInt32.ofNat n.toNat) else none

/-- Reads a number of 32 bits, or a text as `ofText` reads it. -/
def readNumeric (ofText : String → Except Fault UInt32) : Value → Except Fault UInt32
  | .integer n =>
    match word32? n with
    | some n => .ok n
    | none => .error .notSizeLike
  | .text s => ofText s
  | _ => .error .notSizeLike

def readSize : Value → Except Fault UInt32 :=
  readNumeric fun s => (Size.read s).mapError .size

def readPadByte (v : Value) : Except Fault UInt8 := do
  let n ← readNumeric (fun s => (readNumber s).mapError .number) v
  if n.toNat < 256 then .ok n.toUInt8 else .error (.padByteRange n)

/-- The items of an array. -/
def readSequence : Value → Except Fault (List Value)
  | .array items => .ok items
  | .tables items => .ok (items.map (.table .defined))
  | v => .error (.wrongKind v.described .sequence)

def readList {α : Type} (read : Value → Except Fault α) (v : Value) : Except Fault (List α) := do
  (← readSequence v).mapM read

/-- How a record is read into a draft, field by field. -/
structure Record (δ : Type) where
  /-- The name of the record in messages. -/
  name : String
  /-- The fields in their order. -/
  fields : List String
  /-- The number of fields that a record written as an array cannot lack. -/
  positional : Nat
  /-- The draft without any field. -/
  start : δ
  /-- Reads the value of a field. -/
  set : δ → String → Value → Except Fault δ

def Record.readFields {δ : Type} (r : Record δ) : δ → List (String × Value) → Except Fault δ
  | d, [] => .ok d
  | d, (key, v) :: rest => do r.readFields (← r.set d key v) rest

/-- Reads a record written as a table or as an array of its fields. A date is taken for a table
without known fields. -/
def Record.read {δ : Type} (r : Record δ) : Value → Except Fault δ
  | .table _ entries => r.readFields r.start entries
  | .moment => .ok r.start
  | .array items => readItems items
  | .tables items => readItems (items.map (.table .defined))
  | v => .error (.wrongKind v.described (.record r.name))
where
  readItems (items : List Value) : Except Fault δ := do
    let d ← r.readFields r.start (r.fields.zip items)
    if items.length < r.positional then .error .shortRecord else .ok d

def required {α : Type} (name : String) : Option α → Except Fault α
  | some a => .ok a
  | none => .error (.missingField name)

structure RegionDraft where
  name : Option String
  file : Option String
  container : Option String
  size : Option UInt32
  codec : Option String
  policy : Option String
  position : Option String

def regionRecord : Record RegionDraft where
  name := "TomlRegion"
  fields := ["name", "file", "container", "size", "codec", "policy", "position"]
  positional := 4
  start := ⟨none, none, none, none, none, none, none⟩
  set := fun d key v =>
    match key with
    | "name" => do return { d with name := some (← readText v) }
    | "file" => do return { d with file := some (← readText v) }
    | "container" => do return { d with container := some (← readText v) }
    | "size" => do return { d with size := some (← readSize v) }
    | "codec" => do return { d with codec := some (← readText v) }
    | "policy" => do return { d with policy := some (← readText v) }
    | "position" => do return { d with position := some (← readText v) }
    | _ => .ok d

def readRegion (v : Value) : Except Fault RegionEntry := do
  let d ← regionRecord.read v
  let name ← required "name" d.name
  let size ← required "size" d.size
  return ⟨name, d.file, d.container, size, d.codec, d.policy, d.position⟩

structure ContainerDraft where
  name : Option String
  regions : Option (List RegionEntry)

def containerRecord : Record ContainerDraft where
  name := "TomlContainer"
  fields := ["name", "region"]
  positional := 2
  start := ⟨none, none⟩
  set := fun d key v =>
    match key with
    | "name" => do return { d with name := some (← readText v) }
    | "region" => do return { d with regions := some (← readList readRegion v) }
    | _ => .ok d

def readContainer (v : Value) : Except Fault ContainerEntry := do
  let d ← containerRecord.read v
  let name ← required "name" d.name
  let regions ← required "region" d.regions
  return ⟨name, regions⟩

structure LayoutDraft where
  name : Option String
  blockSize : Option UInt32
  padByte : Option UInt8

def layoutRecord : Record LayoutDraft where
  name := "TomlLayoutMeta"
  fields := ["name", "block_size", "pad_byte"]
  positional := 2
  start := ⟨none, none, none⟩
  set := fun d key v =>
    match key with
    | "name" => do return { d with name := some (← readText v) }
    | "block_size" => do return { d with blockSize := some (← readSize v) }
    | "pad_byte" => do return { d with padByte := some (← readPadByte v) }
    | _ => .ok d

def readLayout (v : Value) : Except Fault LayoutEntry := do
  let d ← layoutRecord.read v
  let blockSize ← required "block_size" d.blockSize
  return ⟨d.name, blockSize, d.padByte⟩

structure DocumentDraft where
  layout : Option LayoutEntry
  containers : Option (List ContainerEntry)

def documentRecord : Record DocumentDraft where
  name := "TomlLayoutFile"
  fields := ["layout", "container"]
  positional := 2
  start := ⟨none, none⟩
  set := fun d key v =>
    match key with
    | "layout" => do return { d with layout := some (← readLayout v) }
    | "container" => do return { d with containers := some (← readList readContainer v) }
    | _ => .ok d

def readLayoutDocument (text : String) : Except Fault LayoutDocument := do
  let entries ← match readDocument text with
    | some entries => Except.ok entries
    | none => Except.error Fault.malformed
  let d ← documentRecord.read (.table .defined entries)
  let layout ← required "layout" d.layout
  let containers ← required "container" d.containers
  return ⟨layout, containers⟩

end Toml

namespace RegionEntry

/-- The source of a region: a file or a container, or an artifact of the region's own name. -/
def source (r : RegionEntry) : Except RegionFault Source :=
  match r.file, r.container with
  | some _, some _ => .error .twoSources
  | some file, none => .ok (.artifact file)
  | none, some child => .ok (.container child)
  | none, none => .ok (.artifact r.name)

def setting {α : Type} (read : String → Except ConfigFault α) (unset : α) :
    Option String → Except RegionFault α
  | none => .ok unset
  | some s => (read s).mapError .setting

def region (r : RegionEntry) : Except RegionFault Region := do
  let source ← r.source
  let codec ← setting Codec.read .none r.codec
  let policy ← setting PaddingPolicy.read .pad r.policy
  let position ← setting InsertPosition.read .tail r.position
  return ⟨r.name, source, codec, r.size, policy, position⟩

def regions (container : String) : List RegionEntry → Except Error (List Region)
  | [] => .ok []
  | r :: rest => do
    let first ← r.region.mapError (.region container r.name)
    let others ← regions container rest
    return first :: others

end RegionEntry

namespace LayoutTree

/-- Appends the containers that a document describes, each as soon as its regions are known. -/
def addEntries (t : LayoutTree) : List ContainerEntry → Except Error LayoutTree
  | [] => .ok t
  | c :: rest => do
    let regions ← RegionEntry.regions c.name c.regions
    let t ← t.add ⟨c.name, regions⟩
    t.addEntries rest

def ofDocument (d : LayoutDocument) : Except Error LayoutTree :=
  (LayoutTree.empty d.layout.name d.layout.blockSize d.layout.padByte).addEntries d.containers

def read (text : String) : Except Error LayoutTree := do
  let d ← (Toml.readLayoutDocument text).mapError fun fault =>
    Error.unreadable "TOML layout" (.layout fault)
  ofDocument d

end LayoutTree
end FlashImage
