import FlashImage.Shell.Apart

/-!
How commands are run that are made of others: loops, choices, pipes, and commands that run in a
shell of their own.

A command that fails ends the script if an option says so and nothing looks at its status.
-/

set_option autoImplicit false
set_option relaxedAutoImplicit false

namespace FlashImage.Shell

def stepLimit : Nat := 1000000000

/-- Ends the script after a failure that nothing looks at, if an option says so. -/
def checkFailure (mode : Mode) (step : Interpreting Unit) : Interpreting Unit := fun st =>
  let ends (st : State) : Bool := st.has 'e' && !mode.tested && st.status ≠ 0
  match step st with
  | (.ok (), st) => if ends st then (.error .exit, st) else (.ok (), st)
  | (.error .return, st) => if ends st then (.error .exit, st) else (.error .return, st)
  | result => result

/-- How a pass of a loop ends. -/
inductive Pass
  | done
  | again
  | leave
  deriving DecidableEq, Repr

def catchLeave (step : Interpreting Unit) : Interpreting Pass := fun st =>
  match step st with
  | (.ok (), st) => (.ok .done, st)
  | (.error (.leave levels again), st) =>
    if 1 < levels then (.error (.leave (levels - 1) again), st)
    else (.ok (if again then .again else .leave), st)
  | (.error stop, st) => (.error stop, st)

def inLoop {α : Type} (step : Interpreting α) : Interpreting α := do
  modify fun st => { st with loops := st.loops + 1 }
  Interpreting.ensuring (modify fun st => { st with loops := st.loops - 1 }) step

/-- Runs a body as long as a condition succeeds, or as long as it fails. -/
def runLoop (run : Runner) (mode : Mode) (untilTrue : Bool) (condition body : Command) :
    Interpreting Unit := do
  let step (status : Nat) : Interpreting (Nat ⊕ Nat) := do
    match ← catchLeave (run .condition condition) with
    | .leave => return .inr status
    | .again => return .inl status
    | .done =>
      if ((← get).status = 0) = untilTrue then return .inr status
      match ← catchLeave (run mode.inner body) with
      | .leave => return .inr (← get).status
      | _ => return .inl (← get).status
  Interpreting.setStatus (← inLoop (Interpreting.iterate step stepLimit 0))

def runEach (run : Runner) (mode : Mode) (name : String) (values : List String) (body : Command) :
    Interpreting Unit := do
  let step (value : String) : Interpreting (Option Unit) := do
    Interpreting.assign name value
    match ← catchLeave (run mode.inner body) with
    | .leave => return some ()
    | _ => return none
  if values.isEmpty then Interpreting.setStatus 0
  let _ ← inLoop (Interpreting.firstOf step values)

/-- Runs the body of the first branch with a pattern that fits a subject. -/
def runChoice (run : Runner) (mode : Mode) (subject : String)
    (branches : List (List Word × Command)) : Interpreting Unit := do
  let fits (w : Word) : Interpreting (Option Unit) := do
    let p ← expandPattern (capture run) w
    return if p.fits subject.toList then some () else none
  let step (branch : List Word × Command) : Interpreting (Option Command) := do
    match ← Interpreting.firstOf fits branch.1 with
    | some () => return some branch.2
    | none => return none
  match ← Interpreting.firstOf step branches with
  | some body => if body.isNothing then Interpreting.setStatus 0 else run mode body
  | none => Interpreting.setStatus 0

/-- Runs commands of which each reads what the one before it writes. -/
def runPipe (run : Runner) (mode : Mode) : List Command → (input : Option Nat) → Interpreting Exit
  | [], _ => return .status 0
  | [c], input =>
    runApart run (withInput input) (run ⟨mode.tested, true⟩ c)
  | c :: rest, input => do
    let st ← get
    let (pipe, id, w) := st.process.world.addPipe
    set (st.withWorld w)
    let _ ← runApart run (fun st => (withInput input st).withDescriptor 1 (some id))
      (run ⟨mode.tested, true⟩ c)
    let st ← get
    let (reader, w) := st.process.world.addReader pipe
    set (st.withWorld w)
    let exit ← runPipe run mode rest (some reader)
    modify fun st => st.withWorld (st.process.world.takePipe pipe id).2
    return exit
where
  withInput (input : Option Nat) (st : State) : State :=
    match input with
    | some id => st.withDescriptor 0 (some id)
    | none => st

def startJob (run : Runner) (c : Command) (os : List Opening) : Interpreting Unit := do
  let st ← get
  let child := st.child
  let step : Interpreting Unit := do
    if !(← redirect (capture run) os) then throw .exit
    run ⟨false, true⟩ c
  let job (w : World) : Exit × World :=
    let (id, w) := w.add ⟨.null, 0, false, true, false⟩
    let here := w.files.current
    let start := child.withWorld { w with files := { w.files with current := st.files.current } }
    let (exit, w) := runChild run step (start.withDescriptor 0 (some id))
    (exit, { w with files := { w.files with current := here } })
  set { st.withWorld child.process.world with
    jobs := st.jobs ++ [Job.mk child.process.number (.pending job)],
    lastJob := some child.process.number, status := 0 }

/-- Runs a command in a shell of its own, which may take the place of this one. -/
def runSubshell (run : Runner) (mode : Mode) (c : Command) (os : List Opening) :
    Interpreting Unit := do
  let inside : Interpreting Unit := do
    if !(← redirect (capture run) os) then throw .fault
    run ⟨mode.tested, true⟩ c
  if mode.final && !(← get).hasTraps then
    inside
    throw .exit
  else
    let exit ← runApart run id inside
    Interpreting.setStatus exit.code

end FlashImage.Shell
