import FlashImage.Shell.Simple

/-!
How the commands of a script are run.

A command is run by a runner for the commands in it, and the runners are counted down, so that every
run comes to an end.
-/

set_option autoImplicit false
set_option relaxedAutoImplicit false

namespace FlashImage.Shell

def runWith (shell : ShellRunner) (run : Runner) (mode : Mode) (c : Command) : Interpreting Unit :=
  do
  let find (rs : List Redirection) : Interpreting (List Opening) :=
    rs.mapM (findOpening (capture run))
  match c with
  | .nothing => return ()
  | .simple line assignments words rs =>
    checkFailure mode do
      enterLine line
      runSimple shell run mode assignments words rs
  | .redirected line c rs =>
    enterLine line
    let os ← find rs
    restoring os do
      if ← redirect (capture run) os then run mode.inner c else Interpreting.setStatus misuse
  | .subshell line c rs =>
    checkFailure mode do
      enterLine line
      runSubshell run mode c (← find rs)
  | .background line c rs =>
    enterLine line
    startJob run c (← find rs)
  | .pipe cs =>
    checkFailure mode do
      let exit ← runPipe run mode cs none
      Interpreting.setStatus exit.code
  | .negated c =>
    run .condition c
    modify fun st => { st with status := if st.status = 0 then 1 else 0 }
  | .both first second =>
    run .condition first
    if (← get).status = 0 then run mode second
  | .either first second =>
    run .condition first
    if (← get).status ≠ 0 then run mode second
  | .sequence first second =>
    run mode.inner first
    run mode second
  | .branch condition yes no =>
    run .condition condition
    if (← get).status = 0 then run mode yes
    else if no.isNothing then Interpreting.setStatus 0
    else run mode no
  | .loop untilTrue condition body => runLoop run mode untilTrue condition body
  | .each line name words body =>
    enterLine line
    let fields ← words.mapM (expandFields (capture run))
    runEach run mode name fields.flatten body
  | .choose line subject branches =>
    enterLine line
    runChoice run mode (← expandText (capture run) subject) branches
  | .define line name body =>
    modify fun st => { st with
      functions := (name, ⟨line, body⟩) :: st.functions.filter (·.1 ≠ name), status := 0 }

/-- Runs a command, down to a depth of commands in commands. Signals are dealt with before and
behind it. -/
def runCommand (shell : ShellRunner) : (depth : Nat) → Runner
  | 0, _, _ => throw (.ended (.status misuse))
  | depth + 1, mode, c => do
    let run := runCommand shell depth
    if c.isNothing || (← get).has 'n' then return
    handleSignals run
    runWith shell run mode c
    handleSignals run

def commandDepth : Nat := 100000

end FlashImage.Shell
