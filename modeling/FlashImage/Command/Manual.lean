import FlashImage.Command.Program

/-!
The manual: a page for the program and one for each of its commands, written into a directory.
-/

set_option autoImplicit false
set_option relaxedAutoImplicit false

namespace FlashImage.Manual

structure Page where
  name : String
  options : List OptionRule

def commandPage (command : String) (rule : CommandRule) : Page :=
  ⟨Program.name ++ "-" ++ command, rule.options⟩

def programPage : Page := ⟨Program.name, Invocation.topRule.options⟩

def commandPages : List Page :=
  [commandPage "build" Invocation.buildRule, commandPage "stitch" Invocation.stitchRule,
    commandPage "layout" Invocation.layoutRule, commandPage "list-boards" Invocation.listRule]

def optionText (r : OptionRule) : String := ".TP\n\\fB\\-\\-" ++ r.long ++ "\\fR\n"

def Page.text (p : Page) : String :=
  ".TH " ++ p.name ++ " 1 \"" ++ Program.name ++ " " ++ Program.version ++ "\"\n.SH NAME\n" ++
    p.name ++ "\n.SH OPTIONS\n" ++ String.join (p.options.map optionText)

def Page.path (p : Page) (directory : String) : String := Path.join directory (p.name ++ ".1")

def writePages (fs : Files) (directory : String) : List Page → Except FileFault Unit × Files
  | [] => (.ok (), fs)
  | p :: rest =>
    match fs.write (p.path directory) (Bytes.ofText p.text) with
    | .error fault => (.error fault, fs)
    | .ok fs => writePages fs directory rest

def write (fs : Files) (directory : String) : Except FileFault Unit × Files :=
  match fs.makeDirectories directory with
  | (.error fault, fs) => (.error fault, fs)
  | (.ok (), fs) => writePages fs directory (commandPages ++ [programPage])

def report (directory : String) : String :=
  let paths := (programPage :: commandPages).map (·.path directory)
  String.join (paths.map fun path => "Generated " ++ path ++ "\n") ++
    "\nTo view the main page:\n  man -l " ++ programPage.path directory ++ "\n"

def complaint (fault : FileFault) : String :=
  match fault.system? with
  | some (number, wording) =>
    "Error: Os \x7b code: " ++ toString number ++ ", kind: " ++ fault.name ++ ", message: " ++
      Text.quoted wording ++ " \x7d\n"
  | none =>
    "Error: Error \x7b kind: " ++ fault.name ++ ", message: " ++ Text.quoted fault.message ++
      " \x7d\n"

def defaultDirectory : String := "man"

def run (arguments : List String) (w : Workspace) : Outcome :=
  let directory := arguments.headD defaultDirectory
  match write w.files directory with
  | (.ok (), fs) => ⟨0, Bytes.ofText (report directory), [], fs⟩
  | (.error fault, fs) => ⟨1, [], Bytes.ofText (complaint fault), fs⟩

end FlashImage.Manual
