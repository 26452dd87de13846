import FlashImage.Codec.Compressor
import FlashImage.Command.Options
import FlashImage.Number

/-!
What the program can be asked to do, and how its command line says it.
-/

set_option autoImplicit false
set_option relaxedAutoImplicit false

namespace FlashImage

inductive ResetVectorSource
  /-- It is among the artifacts. -/
  | artifact
  | prebuilt (path : String)
  /-- It is assembled from the source in a directory. -/
  | assembled (directory toolPrefix : String)
  deriving DecidableEq, Repr

inductive StitchGoal
  | image (intermediates : Bool)
  | container (name : String)
  deriving DecidableEq, Repr

inductive Command
  | build (board : String) (artifacts : List String) (out : String)
      (resetVector : ResetVectorSource) (tools : Option CompressionTools)
  | stitch (layout : String) (artifacts : List String) (out : String) (padByte : Option UInt8)
      (blockSize : Option UInt32) (goal : StitchGoal) (tools : Option CompressionTools)
  | showBoard (board : String)
  | showLayout (path : String)
  | exportBoard (board : String) (output : Option String)
  | listBoards (directory : Option String)
  deriving DecidableEq, Repr

structure Invocation where
  boardDirectory : Option String
  command : Command
  deriving DecidableEq, Repr

namespace Invocation

def isText (_ : String) : Bool := true

def isPath (s : String) : Bool := s ≠ ""

def padByte? (s : String) : Option UInt8 :=
  match readNumber s with
  | .ok n => if n.toNat < 256 then some n.toUInt8 else none
  | .error _ => none

def blockSize? (s : String) : Option UInt32 := (readNumber s).toOption

def flag (long : String) (short : Option Char) : OptionRule := ⟨long, short, .none, false, isText⟩

def setting (long : String) (short : Option Char) (accepts : String → Bool) : OptionRule :=
  ⟨long, short, .one, false, accepts⟩

def globalOptions : List OptionRule :=
  [⟨"verbose", some 'v', .none, true, isText⟩, setting "board-dir" none isPath]

def rule (options : List OptionRule) (commands : List String) : CommandRule :=
  ⟨options ++ globalOptions, commands, false⟩

def artifactsOption : OptionRule := ⟨"artifacts", some 'a', .many, true, isPath⟩

def toolOptions : List OptionRule :=
  [setting "lz4-tool" none isPath, setting "lzma-tool" none isPath]

def topRule : CommandRule :=
  { rule [] ["build", "stitch", "layout", "list-boards", "help"] with hasVersion := true }

def buildRule : CommandRule :=
  rule ([setting "board" (some 'b') isText, artifactsOption, setting "out" (some 'o') isPath,
    setting "reset-vector" none isPath, setting "vtf-dir" none isPath,
    setting "toolchain-prefix" none isText] ++ toolOptions) []

def stitchRule : CommandRule :=
  rule ([setting "layout" (some 'l') isPath, artifactsOption, setting "out" (some 'o') isPath,
    setting "pad-byte" none fun s => (padByte? s).isSome,
    setting "block-size" none fun s => (blockSize? s).isSome,
    setting "final" none isText, flag "intermediates" none] ++ toolOptions) []

def layoutRule : CommandRule := rule [] ["show", "export", "help"]

def showRule : CommandRule :=
  rule [setting "board" (some 'b') isText, setting "layout" (some 'l') isPath] []

def exportRule : CommandRule :=
  rule [setting "board" (some 'b') isText, setting "output" (some 'o') isPath] []

def listRule : CommandRule := rule [setting "dir" none isPath] []

def required (g : GivenOptions) (long : String) : Except EarlyEnd String :=
  match g.value? long with
  | some s => .ok s
  | none => .error .refused

def tools (g : GivenOptions) : Except EarlyEnd (Option CompressionTools) :=
  match g.value? "lz4-tool", g.value? "lzma-tool" with
  | some lz4, some lzma => .ok (some ⟨lz4, lzma⟩)
  | none, none => .ok none
  | _, _ => .error .refused

/-- The source of the reset vector. A prefix for its tools needs a directory with the source, but it
is passed over beside a prebuilt one, which rules such a directory out. -/
def resetVector (g : GivenOptions) : Except EarlyEnd ResetVectorSource :=
  match g.value? "reset-vector", g.value? "vtf-dir", g.value? "toolchain-prefix" with
  | some _, some _, _ => .error .refused
  | some path, none, _ => .ok (.prebuilt path)
  | none, some directory, toolPrefix => .ok (.assembled directory (toolPrefix.getD ""))
  | none, none, some _ => .error .refused
  | none, none, none => .ok .artifact

def goal (g : GivenOptions) : Except EarlyEnd StitchGoal :=
  match g.value? "final", g.has "intermediates" with
  | some _, true => .error .refused
  | some name, false => .ok (.container name)
  | none, intermediates => .ok (.image intermediates)

def artifacts (g : GivenOptions) : Except EarlyEnd (List String) :=
  match g.values "artifacts" with
  | [] => .error .refused
  | directories => .ok directories

def innermost (outer inner : GivenOptions) : GivenOptions :=
  match inner.value? "board-dir" with
  | some d => [("board-dir", [d])]
  | none => outer

def readLast (c : CommandRule) (outer : GivenOptions) (arguments : List String)
    (command : GivenOptions → Except EarlyEnd Command) : Except EarlyEnd Invocation := do
  let r ← c.read .start arguments
  let command ← command r.given
  return ⟨(innermost outer r.given).value? "board-dir", command⟩

/-- Whether names lead to a command below the one on layouts, or to that one itself. -/
def namesLayoutCommand : List String → Bool
  | [] => true
  | [name] => layoutRule.commands.contains name
  | _ => false

/-- Whether names lead to a command, each to one below that of the name before it. -/
def namesCommand : List String → Bool
  | "layout" :: names => namesLayoutCommand names
  | [] => true
  | [name] => topRule.commands.contains name
  | _ => false

def readLayout (outer : GivenOptions) (arguments : List String) : Except EarlyEnd Invocation := do
  let r ← layoutRule.read .start arguments
  let outer := innermost outer r.given
  match r.below with
  | some ("show", rest) =>
    readLast showRule outer rest fun g =>
      match g.value? "board", g.value? "layout" with
      | some board, none => .ok (.showBoard board)
      | none, some path => .ok (.showLayout path)
      | _, _ => .error .refused
  | some ("export", rest) =>
    readLast exportRule outer rest fun g => do
      return .exportBoard (← required g "board") (g.value? "output")
  | some ("help", names) => .error (if namesLayoutCommand names then .help else .refused)
  | _ => .error .refused

def read (arguments : List String) : Except EarlyEnd Invocation := do
  let r ← topRule.read .start arguments
  match r.below with
  | some ("build", rest) =>
    readLast buildRule r.given rest fun g => do
      return .build (← required g "board") (← artifacts g) (← required g "out") (← resetVector g)
        (← tools g)
  | some ("stitch", rest) =>
    readLast stitchRule r.given rest fun g => do
      return .stitch (← required g "layout") (← artifacts g) (← required g "out")
        ((g.value? "pad-byte").bind padByte?) ((g.value? "block-size").bind blockSize?) (← goal g)
        (← tools g)
  | some ("layout", rest) => readLayout r.given rest
  | some ("list-boards", rest) =>
    readLast listRule r.given rest fun g => return .listBoards (g.value? "dir")
  | some ("help", names) => .error (if namesCommand names then .help else .refused)
  | _ => .error .refused

end Invocation
end FlashImage
