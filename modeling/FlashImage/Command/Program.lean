import FlashImage.Command.Run

/-!
A run of the program: the arguments are read, the command is run, and an exit code is given.
-/

set_option autoImplicit false
set_option relaxedAutoImplicit false

namespace FlashImage

/-- How a run of the program ends: the exit code, what has been printed, and the files. -/
structure Outcome where
  code : Nat
  printed : Bytes
  complaints : Bytes
  files : Files

namespace Program

def name : String := "fwstitch"

def version : String := "0.1.0"

def usage : String :=
  "Usage: " ++ name ++ " [OPTIONS] <COMMAND>\n\nCommands: " ++
    String.intercalate ", " Invocation.topRule.commands ++ "\n"

/-- The end of a run that has got nowhere. -/
def endEarly (w : Workspace) : EarlyEnd → Outcome
  | .refused => ⟨2, [], Bytes.ofText ("error: unusable arguments\n\n" ++ usage), w.files⟩
  | .help => ⟨0, Bytes.ofText usage, [], w.files⟩
  | .version => ⟨0, Bytes.ofText (name ++ " " ++ version ++ "\n"), [], w.files⟩

def conclude (result : Except CommandFault Unit) (w : Workspace) : Outcome :=
  match result with
  | .ok () => ⟨0, w.printed, w.complaints, w.files⟩
  | .error (.output fault) =>
    ⟨101, w.printed, w.complaints ++ Bytes.ofText ((CommandFault.output fault).message ++ "\n"),
      w.files⟩
  | .error fault =>
    ⟨1, w.printed, w.complaints ++ Bytes.ofText ("error: " ++ fault.message ++ "\n"), w.files⟩

def run (runTool : ToolRunner) (arguments : List String) (w : Workspace) : Outcome :=
  match Invocation.read arguments with
  | .error early => endEarly w early
  | .ok invocation =>
    let (result, w) := invocation.command.run runTool invocation.boardDirectory w
    conclude result w

end Program
end FlashImage
