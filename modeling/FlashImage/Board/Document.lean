import FlashImage.Board.Basic
import FlashImage.Ron.Record

/-!
Boards as RON documents.

Every size has a unit in a document and is turned into bytes afterwards, in the order in which the
document type lists the sizes.
-/

set_option autoImplicit false
set_option relaxedAutoImplicit false

namespace FlashImage

structure BoardSizesEntry where
  reset : Size
  stage1a : Size
  stage1b : Size
  stage2 : Size
  payload : Size
  configData : Size
  keyHash : Size
  variableStore : Size
  reserved : Size
  firmwareUpdate : Option Size
  extraPayload : Option Size
  topSwap : Size
  redundant : Size
  nonRedundant : Size
  nonVolatile : Size
  deriving DecidableEq, Repr

structure BoardDocument where
  name : String
  imageName : String
  padByte : UInt8
  blockSize : Size
  flashSize : Size
  isRedundant : Bool
  features : FeatureSet
  sizes : BoardSizesEntry
  resetVector : ResetVector
  deriving DecidableEq, Repr

namespace Ron

structure Extensions where
  /-- An optional value may be given without a word around it. -/
  implicitSome : Bool
  deriving DecidableEq, Repr

def readWord32 (s : List Char) : Except Fault (UInt32 × List Char) := do
  let (n, rest) ← readWhole UInt32.size s
  return (UInt32.ofNat n, rest)

def readByte (s : List Char) : Except Fault (UInt8 × List Char) := do
  let (n, rest) ← readWhole UInt8.size s
  return (UInt8.ofNat n, rest)

def readBool (s : List Char) : Except Fault (Bool × List Char) :=
  match behindWord? "true" s, behindWord? "false" s with
  | some rest, _ => .ok (true, rest)
  | none, some rest => .ok (false, rest)
  | none, none => .error .malformed

def unitOf : String → Except Fault SizeUnit
  | "B" => .ok .byte
  | "KiB" => .ok .kibibyte
  | "MiB" => .ok .mebibyte
  | other => .error (.unknownUnit other)

def readSize (s : List Char) : Except Fault (Size × List Char) := do
  let (name, rest) ← readName s
  let unit ← unitOf name
  let rest ← expect '(' (← skipBlank rest)
  let (count, rest) ← readWord32 (← skipBlank rest)
  let (_, rest) ← readComma rest
  return (⟨count, unit⟩, ← expect ')' rest)

/-- Reads an optional value. A value without parentheses may follow the word for a given one, and
without a blank between them. -/
def readOption {α : Type} (x : Extensions) (read : List Char → Except Fault (α × List Char))
    (s : List Char) : Except Fault (Option α × List Char) :=
  match behind? "None".toList s, behind? "Some".toList s with
  | some rest, _ => .ok (none, rest)
  | none, some rest => do
    match ← skipBlank rest with
    | '(' :: rest =>
      let (a, rest) ← read (← skipBlank rest)
      let (_, rest) ← readComma rest
      return (some a, ← expect ')' rest)
    | rest => bare rest
  | none, none => bare s
where
  bare (s : List Char) : Except Fault (Option α × List Char) := do
    if x.implicitSome then
      let (a, rest) ← read s
      return (some a, rest)
    else .error .malformed

def field {δ α : Type} (read : List Char → Except Fault (α × List Char)) (set : δ → α → δ) :
    Option (δ → List Char → Except Fault (δ × List Char)) :=
  some fun d s => do
    let (a, rest) ← read s
    return (set d a, rest)

def featuresRecord : Record FeatureSet FeatureSet where
  name := "FeaturesDef"
  start := FeatureSet.none
  field? := fun key =>
    match key with
    | "stage1b_xip" => field readBool fun d b => { d with stage1bInPlace := b }
    | "enable_fwu" => field readBool fun d b => { d with firmwareUpdate := b }
    | "have_epayload" => field readBool fun d b => { d with extraPayload := b }
    | "have_verified_boot" => field readBool fun d b => { d with verifiedBoot := b }
    | _ => none
  finish := .ok

structure SizesDraft where
  reset : Option Size
  stage1a : Option Size
  stage1b : Option Size
  stage2 : Option Size
  payload : Option Size
  configData : Option Size
  keyHash : Option Size
  variableStore : Option Size
  reserved : Option Size
  firmwareUpdate : Option Size
  extraPayload : Option Size
  topSwap : Option Size
  redundant : Option Size
  nonRedundant : Option Size
  nonVolatile : Option Size

def SizesDraft.finish (d : SizesDraft) : Except Fault BoardSizesEntry := do
  let need := fun (key : String) (size : Option Size) => required "SizesDef" key size
  let reset ← need "reset" d.reset
  let stage1a ← need "stage1a" d.stage1a
  let stage1b ← need "stage1b" d.stage1b
  let stage2 ← need "stage2" d.stage2
  let payload ← need "payload" d.payload
  let configData ← need "cfgdata" d.configData
  let keyHash ← need "keyhash" d.keyHash
  let variableStore ← need "variable" d.variableStore
  let reserved ← need "sblrsvd" d.reserved
  let topSwap ← need "top_swap" d.topSwap
  let redundant ← need "redundant" d.redundant
  let nonRedundant ← need "non_redundant" d.nonRedundant
  let nonVolatile ← need "non_volatile" d.nonVolatile
  return ⟨reset, stage1a, stage1b, stage2, payload, configData, keyHash, variableStore, reserved,
    d.firmwareUpdate, d.extraPayload, topSwap, redundant, nonRedundant, nonVolatile⟩

def sizesRecord (x : Extensions) : Record SizesDraft BoardSizesEntry where
  name := "SizesDef"
  start := ⟨none, none, none, none, none, none, none, none, none, none, none, none, none, none,
    none⟩
  field? := fun key =>
    match key with
    | "reset" => field readSize fun d a => { d with reset := some a }
    | "stage1a" => field readSize fun d a => { d with stage1a := some a }
    | "stage1b" => field readSize fun d a => { d with stage1b := some a }
    | "stage2" => field readSize fun d a => { d with stage2 := some a }
    | "payload" => field readSize fun d a => { d with payload := some a }
    | "cfgdata" => field readSize fun d a => { d with configData := some a }
    | "keyhash" => field readSize fun d a => { d with keyHash := some a }
    | "variable" => field readSize fun d a => { d with variableStore := some a }
    | "sblrsvd" => field readSize fun d a => { d with reserved := some a }
    | "fwupdate" => field (readOption x readSize) fun d a => { d with firmwareUpdate := a }
    | "epayload" => field (readOption x readSize) fun d a => { d with extraPayload := a }
    | "top_swap" => field readSize fun d a => { d with topSwap := some a }
    | "redundant" => field readSize fun d a => { d with redundant := some a }
    | "non_redundant" => field readSize fun d a => { d with nonRedundant := some a }
    | "non_volatile" => field readSize fun d a => { d with nonVolatile := some a }
    | _ => none
  finish := SizesDraft.finish

structure ResetVectorDraft where
  arch : Option String
  base : Option UInt32

def resetVectorRecord : Record ResetVectorDraft ResetVector where
  name := "ResetVectorDef"
  start := ⟨none, none⟩
  field? := fun key =>
    match key with
    | "arch" => field readString fun d a => { d with arch := some a }
    | "base" => field readWord32 fun d a => { d with base := some a }
    | _ => none
  finish := fun d => do
    let arch ← required "ResetVectorDef" "arch" d.arch
    let base ← required "ResetVectorDef" "base" d.base
    return ⟨arch, base⟩

structure BoardDraft where
  name : Option String
  imageName : Option String
  padByte : Option UInt8
  blockSize : Option Size
  flashSize : Option Size
  isRedundant : Option Bool
  features : FeatureSet
  sizes : Option BoardSizesEntry
  resetVector : Option ResetVector

def depthLimit : Nat := 128

def recordLevels : Nat := 2

/-- Skips a value in a field of a record that is nested in so many others. -/
def skipInField (x : Extensions) (outer : Nat) : List Char → Except Fault (List Char) :=
  skipValue x.implicitSome (depthLimit - recordLevels * (outer + 1))

def boardRecord (x : Extensions) : Record BoardDraft BoardDocument where
  name := "BoardDef"
  start := ⟨none, none, none, none, none, none, FeatureSet.none, none, none⟩
  field? := fun key =>
    let skip := skipInField x 1
    match key with
    | "name" => field readString fun d a => { d with name := some a }
    | "image_name" => field readString fun d a => { d with imageName := some a }
    | "pad_byte" => field readByte fun d a => { d with padByte := some a }
    | "flash_block_size" => field readSize fun d a => { d with blockSize := some a }
    | "flash_size" => field readSize fun d a => { d with flashSize := some a }
    | "redundant_layout" => field readBool fun d a => { d with isRedundant := some a }
    | "features" => field (featuresRecord.read skip) fun d a => { d with features := a }
    | "sizes" => field ((sizesRecord x).read skip) fun d a => { d with sizes := some a }
    | "reset_vector" =>
      field (resetVectorRecord.read skip) fun d a => { d with resetVector := some a }
    | _ => none
  finish := fun d => do
    let record := "BoardDef"
    let name ← required record "name" d.name
    let imageName ← required record "image_name" d.imageName
    let padByte ← required record "pad_byte" d.padByte
    let blockSize ← required record "flash_block_size" d.blockSize
    let flashSize ← required record "flash_size" d.flashSize
    let isRedundant ← required record "redundant_layout" d.isRedundant
    let sizes ← required record "sizes" d.sizes
    let resetVector ← required record "reset_vector" d.resetVector
    return ⟨name, imageName, padByte, blockSize, flashSize, isRedundant, d.features, sizes,
      resetVector⟩

def expectAll : (words : List String) → List Char → Except Fault (List Char)
  | [], s => .ok s
  | word :: words, s =>
    match behind? word.toList s with
    | none => .error .malformed
    | some rest => do expectAll words (← skipBlank rest)

def extensionOf (x : Extensions) : String → Except Fault Extensions
  | "implicit_some" => .ok ⟨true⟩
  | "unwrap_newtypes" => .ok x
  | "unwrap_variant_newtypes" => .ok x
  | _ => .error .malformed

/-- Reads names of extensions that are parted by commas. The last one may have a comma too. -/
def readExtensions : (limit : Nat) → Extensions → List Char → Except Fault (Extensions × List Char)
  | 0, _, _ => .error .malformed
  | limit + 1, x, s => do
    let (name, rest) ← readName s
    let x ← extensionOf x name
    let (comma, rest) ← readComma rest
    if comma && startsWith isNameChar rest then readExtensions limit x rest else return (x, rest)

/-- Reads the attributes at the start of a document, each of which enables extensions. -/
def readAttributes : (limit : Nat) → Extensions → List Char → Except Fault (Extensions × List Char)
  | 0, _, _ => .error .malformed
  | limit + 1, x, s =>
    match s with
    | '#' :: _ => do
      let rest ← expectAll ["#", "!", "[", "enable", "("] s
      let (x, rest) ← readExtensions rest.length x rest
      readAttributes limit x (← expectAll [")", "]"] rest)
    | _ => .ok (x, s)

def readBoardDocument (text : String) : Except Fault BoardDocument := do
  let s ← skipBlank text.toList
  let (x, rest) ← readAttributes (s.length + 1) ⟨false⟩ s
  let (board, rest) ← (boardRecord x).read (skipInField x 0) rest
  match ← skipBlank rest with
  | [] => return board
  | _ => .error .malformed

end Ron

/-- The bytes of a size, which have to fit in 32 bits. -/
def Size.bytes (s : Size) : Except Error UInt32 :=
  match s.bytes? with
  | some n => .ok n
  | none => .error (.configuration (.sizeRange s))

def Size.optionalBytes : Option Size → Except Error (Option UInt32)
  | none => .ok none
  | some s => s.bytes.map some

def BoardSizes.ofEntry (s : BoardSizesEntry) : Except Error BoardSizes := do
  let reset ← s.reset.bytes
  let stage1a ← s.stage1a.bytes
  let stage1b ← s.stage1b.bytes
  let stage2 ← s.stage2.bytes
  let payload ← s.payload.bytes
  let configData ← s.configData.bytes
  let keyHash ← s.keyHash.bytes
  let variableStore ← s.variableStore.bytes
  let reserved ← s.reserved.bytes
  let firmwareUpdate ← Size.optionalBytes s.firmwareUpdate
  let extraPayload ← Size.optionalBytes s.extraPayload
  let topSwap ← s.topSwap.bytes
  let redundant ← s.redundant.bytes
  let nonRedundant ← s.nonRedundant.bytes
  let nonVolatile ← s.nonVolatile.bytes
  return ⟨reset, stage1a, stage1b, stage2, payload, configData, keyHash, variableStore, reserved,
    firmwareUpdate, extraPayload, topSwap, redundant, nonRedundant, nonVolatile⟩

def Board.ofDocument (d : BoardDocument) : Except Error Board := do
  let blockSize ← d.blockSize.bytes
  let flashSize ← d.flashSize.bytes
  let sizes ← BoardSizes.ofEntry d.sizes
  return ⟨d.name, d.imageName, d.padByte, blockSize, flashSize, d.isRedundant, d.features, sizes,
    d.resetVector⟩

def Board.readFrom (origin text : String) : Except Error Board := do
  let d ← (Ron.readBoardDocument text).mapError fun fault => Error.unreadable origin (.board fault)
  let b ← Board.ofDocument d
  b.validate
  return b

def Board.read (text : String) : Except Error Board := Board.readFrom "board RON" text

end FlashImage
