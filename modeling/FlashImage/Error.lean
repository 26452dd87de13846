import FlashImage.Board.Fault
import FlashImage.Files.Fault
import FlashImage.Region.Basic
import FlashImage.Ron.Fault
import FlashImage.Size
import FlashImage.Toml.Fault

/-!
Everything that can stop a build, by cause, and the wording of each cause.
-/

set_option autoImplicit false
set_option relaxedAutoImplicit false

namespace FlashImage

inductive ConfigFault
  | unknownCodec (text : String)
  | unknownPolicy (text : String)
  | unknownPosition (text : String)
  /-- A size needs more than 32 bits. -/
  | sizeRange (size : Size)
  | duplicateContainer (name : String)
  | zeroBlockSize
  | noContainers
  /-- A container's name is no plain file name. -/
  | containerName (name : String)
  | emptyContainer (name : String)
  | unknownContainer (name : String)
  | board (name : String) (fault : BoardFault)
  | resetVectorSize (origin : String) (length : Nat) (allocated : UInt32)
  /-- The input or the output of a codec needs a length of more than 32 bits. -/
  | codecLength (codec : Codec)
  /-- A header is asked for although the region is not compressed. -/
  | headerWithoutCodec
  /-- A fault that is known by its wording alone. -/
  | described (message : String)
  deriving DecidableEq, Repr

open Text in
def ConfigFault.message : ConfigFault → String
  | .unknownCodec text => "unknown codec '" ++ text ++ "'"
  | .unknownPolicy text => "unknown padding policy '" ++ text ++ "'"
  | .unknownPosition text => "unknown insert position '" ++ text ++ "'"
  | .sizeRange size => "size " ++ size.text ++ " does not fit in 32 bits"
  | .duplicateContainer name => "duplicate container name '" ++ name ++ "'"
  | .zeroBlockSize => "flash block size must be non-zero"
  | .noContainers => "layout has no containers"
  | .containerName name => "container name '" ++ name ++ "' must be a plain file name"
  | .emptyContainer name => "container '" ++ name ++ "' has no regions"
  | .unknownContainer name => "unknown container '" ++ name ++ "'"
  | .board name fault => "board '" ++ name ++ "': " ++ fault.message
  | .resetVectorSize origin length allocated =>
    "reset vector " ++ origin ++ " is " ++ prefixedHex length ++
      " bytes but the reset region is " ++ prefixedHex allocated.toNat
  | .codecLength codec => codec.name ++ " input exceeds 4 GiB"
  | .headerWithoutCodec => "identity codec has no compressed header"
  | .described message => message

inductive RegionFault
  | duplicateName
  | zeroSize
  | unaligned (size blockSize : UInt32)
  | unknownContainer (name : String)
  | containerTooLarge (name : String) (needed : Nat) (allocated : UInt32)
  /-- The region names both an artifact and a container. -/
  | twoSources
  /-- A setting of the region has no meaning. -/
  | setting (fault : ConfigFault)
  /-- A fault that is known by its wording alone. -/
  | described (message : String)
  deriving DecidableEq, Repr

open Text in
def RegionFault.message : RegionFault → String
  | .duplicateName => "duplicate region name"
  | .zeroSize => "allocated size is zero"
  | .unaligned size blockSize =>
    "allocated size " ++ prefixedHex size.toNat ++ " is not a multiple of the " ++
      prefixedHex blockSize.toNat ++ " block size"
  | .unknownContainer name => "unknown container '" ++ name ++ "'"
  | .containerTooLarge name needed allocated =>
    "container '" ++ name ++ "' needs " ++ prefixedHex needed ++ " bytes but is allocated " ++
      prefixedHex allocated.toNat
  | .twoSources => "region cannot name both a file and a container"
  | .setting fault => "configuration error: " ++ fault.message
  | .described message => message

inductive ToolFault
  | exited (status : Nat)
  | killed (signal : Nat) (name : Option String)
  | notStarted (fault : FileFault)
  /-- The program ended well, and the file that it should have written is absent. -/
  | noOutput (path : String)
  | emptyResetVector
  /-- A fault that is known by its wording alone. -/
  | described (message : String)
  deriving DecidableEq, Repr

def ToolFault.message : ToolFault → String
  | .exited status => "exited with exit status: " ++ toString status
  | .killed signal name =>
    let shown := match name with
      | some s => " (" ++ s ++ ")"
      | none => ""
    "exited with signal: " ++ toString signal ++ shown
  | .notStarted fault => "failed to start: " ++ fault.message
  | .noOutput path => "produced no output at " ++ path
  | .emptyResetVector => "reset vector is empty"
  | .described message => message

/-- Why a text is no layout or no board. -/
inductive ReadFault
  | layout (fault : Toml.Fault)
  | board (fault : Ron.Fault)
  /-- A fault that is known by its wording alone. -/
  | described (message : String)
  deriving DecidableEq, Repr

def ReadFault.message? : ReadFault → Option String
  | .layout fault => fault.message?
  | .board fault => fault.message?
  | .described message => some message

inductive Error
  | configuration (fault : ConfigFault)
  | region (container region : String) (fault : RegionFault)
  /-- Containers that embed one another; the first stands again at the end. -/
  | cycle (path : List String)
  /-- A text, named by its origin, is no layout or no board. -/
  | unreadable (origin : String) (fault : ReadFault)
  | missingArtifact (container region artifact : String)
  | sizeViolation (container region : String) (actual : Nat) (allocated : UInt32)
      (policy : PaddingPolicy)
  | toolFailure (tool : String) (fault : ToolFault)
  | file (path : String) (fault : FileFault)
  deriving DecidableEq, Repr

/-- The classes of errors. -/
inductive ErrorKind
  | configuration
  | missingArtifact
  | sizeViolation
  | toolFailure
  | file
  deriving DecidableEq, Repr

namespace Error

def kind : Error → ErrorKind
  | .configuration _ => .configuration
  | .region _ _ _ => .configuration
  | .cycle _ => .configuration
  | .unreadable _ _ => .configuration
  | .missingArtifact _ _ _ => .missingArtifact
  | .sizeViolation _ _ _ _ _ => .sizeViolation
  | .toolFailure _ _ => .toolFailure
  | .file _ _ => .file

open Text in
def message : Error → String
  | .configuration fault => "configuration error: " ++ fault.message
  | .region container name fault =>
    "configuration error in " ++ container ++ "/" ++ name ++ ": " ++ fault.message
  | .cycle path => "container dependency cycle: " ++ String.intercalate " -> " path
  | .unreadable origin fault =>
    "failed to parse " ++ origin ++ ": " ++ fault.message?.getD "malformed text"
  | .missingArtifact container name artifact =>
    "missing artifact '" ++ artifact ++ "' for region " ++ container ++ "/" ++ name
  | .sizeViolation container name actual allocated policy =>
    "size violation in " ++ container ++ "/" ++ name ++ ": " ++ prefixedHex actual ++
      " bytes does not fit " ++ prefixedHex allocated.toNat ++ " bytes under " ++ policy.name ++
      " policy"
  | .toolFailure tool fault => "external tool '" ++ tool ++ "' failed: " ++ fault.message
  | .file path fault => "I/O error on " ++ path ++ ": " ++ fault.message

end Error
end FlashImage
