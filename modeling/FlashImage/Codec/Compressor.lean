import FlashImage.Codec.Header
import FlashImage.Codec.Lz4.Compress
import FlashImage.Codec.Lzma.Compress
import FlashImage.Workspace

/-!
The compressors of a build: the built-in one, and one that leaves the work to external programs.
-/

set_option autoImplicit false
set_option relaxedAutoImplicit false

namespace FlashImage

/-- Data compressed with a codec and put behind its header. No codec leaves the data as they are. -/
def Codec.compress (codec : Codec) (raw : Bytes) : Except Error Bytes :=
  match codec with
  | .none => .ok raw
  | .lz4 => CompressedHeader.wrap .lz4 raw.length (Lz4.compress raw)
  | .lzma => CompressedHeader.wrap .lzma raw.length (Lzma.compress raw)

def Compressor.builtIn : Compressor := fun codec raw => Build.ofExcept (codec.compress raw)

structure CompressionTools where
  lz4 : String
  lzma : String
  deriving DecidableEq, Repr

def CompressionTools.program? (t : CompressionTools) : Codec → Option String
  | .none => none
  | .lz4 => some t.lz4
  | .lzma => some t.lzma

/-- The name of the directory that is made for one run of a compression program. -/
def scratchName : String := "fwstitch-codec"

def runCompressionTool (run : ToolRunner) (program directory : String) (raw : Bytes) :
    Build Bytes := do
  let input := Path.join directory "input.bin"
  let output := Path.join directory "output.bin"
  Build.change input (·.write input raw)
  let arguments := ["-e", "-o", output, input]
  Build.record (.toolRun program arguments directory)
  run program arguments directory
  match (← Build.files).read output with
  | .ok payload => return payload
  | .error _ => throw (.toolFailure program (.noOutput output))

/-- The compressor that runs a program for each codec, in a scratch directory of its own. -/
def Compressor.ofTools (tools : CompressionTools) (run : ToolRunner) : Compressor :=
  fun codec raw => do
    match tools.program? codec with
    | none => return raw
    | some program =>
      let scratch := (← get).scratch
      let directory := Path.join scratch scratchName
      Build.change scratch (·.makeDirectory directory)
      let l ← Build.look directory (·.find directory)
      Build.ensuring (·.removeAll l.1) do
        let payload ← runCompressionTool run program directory raw
        Build.ofExcept (CompressedHeader.wrap codec raw.length payload)

end FlashImage
