import FlashImage.Shell.Place
import FlashImage.Shell.Print
import FlashImage.Shell.Utility.Calculate

/-!
Programs that start other programs: with other variables, with words of the input as arguments, and
with a limit of time.

What has been started ends in place of such a program, so that its status is the one of both.
-/

set_option autoImplicit false
set_option relaxedAutoImplicit false

namespace FlashImage.Shell

/-- The status of a program that has not found the one that it starts. -/
def missingProgram : Nat := 127

/-- The status of a program that cannot start the one that it has found. -/
def notStartedStatus : Nat := 126

/-- The status of a program whose arguments say nothing that it could start. -/
def passingStatus : Nat := 125

def statusOfFault : FileFault → Nat
  | .notFound => missingProgram
  | _ => notStartedStatus

def startInPlace (start : Starter) (wording : String → String) : List String → Program Unit
  | [] => return ()
  | name :: arguments => do
    match ← start name arguments with
    | .ok exit => throw exit
    | .error fault =>
      Program.complain (wording name ++ ": " ++ faultWording fault)
      Program.finish (statusOfFault fault)

def givenToPassing (specs : List OptionSpec) (arguments : List String) : Program Given :=
  readGiven specs passingStatus true (arguments.length + 1) arguments

def cannotRun (name : String) : String := "failed to run command " ++ shownPath name

/-- Splits a text into words. Quotes and backslashes keep what separates words. The result has the
quote that is not closed. -/
def splitQuoted (isBlank : Char → Bool) : (quote : Option Char) → (word : Option (List Char)) →
    List Char → List String × Option Char
  | some q, _, [] => ([], some q)
  | none, word, [] => (word.toList.map fun r => String.ofList r.reverse, none)
  | some q, word, c :: rest =>
    if c = '\n' then ([], some q)
    else if c = q then splitQuoted isBlank none word rest
    else splitQuoted isBlank (some q) (some (c :: word.getD [])) rest
  | none, word, '\\' :: c :: rest => splitQuoted isBlank none (some (c :: word.getD [])) rest
  | none, word, c :: rest =>
    if c = '\'' ∨ c = '"' then splitQuoted isBlank (some c) (some (word.getD [])) rest
    else if isBlank c then
      let (words, quote) := splitQuoted isBlank none none rest
      ((word.toList.map fun r => String.ofList r.reverse) ++ words, quote)
    else splitQuoted isBlank none (some (c :: word.getD [])) rest

def isWordEnd (c : Char) : Bool := c = ' ' || c = '\t' || c = '\n'

def setting? (word : String) : Option (String × String) :=
  let name := word.toList.takeWhile (· ≠ '=')
  if name.length = word.length then none
  else some (String.ofList name, String.ofList (word.toList.drop (name.length + 1)))

def withSetting (environment : List (String × String)) (name value : String) :
    List (String × String) :=
  if (environment.lookup name).isSome then
    environment.map fun entry => if entry.1 = name then (name, value) else entry
  else environment ++ [(name, value)]

theorem lookup_withSetting (environment : List (String × String)) (name value : String) :
    (withSetting environment name value).lookup name = some value := by
  have added (e : List (String × String)) (h : e.lookup name = none) :
      (e ++ [(name, value)]).lookup name = some value := by
    induction e with
    | nil => simp
    | cons entry rest ih =>
      obtain ⟨key, held⟩ := entry
      by_cases hname : name = key
      · simp [hname] at h
      · have hbeq : (name == key) = false := by simpa using hname
        simp only [List.lookup_cons, hbeq] at h
        simpa only [List.cons_append, List.lookup_cons, hbeq] using ih h
  have changed (e : List (String × String)) (h : (e.lookup name).isSome) :
      (e.map fun entry => if entry.1 = name then (name, value) else entry).lookup name =
        some value := by
    induction e with
    | nil => simp at h
    | cons entry rest ih =>
      obtain ⟨key, held⟩ := entry
      by_cases hname : key = name
      · simp [hname]
      · have hbeq : (name == key) = false := by simpa using fun h => hname h.symm
        simp only [List.lookup_cons, hbeq] at h
        simpa only [List.map_cons, if_neg hname, List.lookup_cons, hbeq] using ih h
  unfold withSetting
  split
  next h => exact changed environment h
  next h => exact added environment (Option.not_isSome_iff_eq_none.1 h)

/-- Arguments in which the value of an option that stands for several words is split. -/
def splitOption : List String → List String
  | "-S" :: text :: rest => wordsOf text.toList ++ rest
  | argument :: rest =>
    match argument.toList with
    | '-' :: 'S' :: text => wordsOf text ++ rest
    | '-' :: 'i' :: 'S' :: text => "-i" :: wordsOf text ++ rest
    | _ => argument :: rest
  | [] => []
where
  wordsOf (text : List Char) : List String := (splitQuoted isWordEnd none none text).1

/-- Starts a program with other variables, or prints the variables. -/
def startWithSettings (start : Starter) (arguments : List String) : Program Unit := do
  let g ← givenToPassing (flags "i0v" ++ settings "uC" ++ [⟨'i', "ignore-environment", false⟩,
    ⟨'0', "null", false⟩, ⟨'u', "unset", true⟩, ⟨'C', "chdir", true⟩]) (splitOption arguments)
  let (isEmpty, words) :=
    match g.operands with
    | "-" :: words => (true, words)
    | words => (g.has 'i', words)
  let removed := g.options.filterMap fun (letter, name) => if letter = 'u' then some name else none
  let assignments := words.takeWhile fun word => (setting? word).isSome
  modify fun p =>
    let kept := if isEmpty then [] else p.environment.filter fun e => !removed.contains e.1
    { p with
      environment := (assignments.filterMap setting?).foldl (fun e (n, v) => withSetting e n v)
        kept }
  match g.value? 'C' with
  | none => pure ()
  | some directory =>
    match ← Program.find directory with
    | .ok (l, .directory) =>
      let fs ← Program.files
      Program.setFiles { fs with current := l }
    | result =>
      let fault := match result with
        | .error fault => fault
        | .ok _ => .notDirectory
      Program.complain
        ("cannot change directory to " ++ shownPath directory ++ ": " ++ faultWording fault)
      Program.finish passingStatus
  match words.drop assignments.length with
  | [] =>
    let lines := (← get).environment.map fun (name, value) => name ++ "=" ++ value
    let ending := if g.has '0' then "\x00" else "\n"
    Program.printText (String.join (lines.map (· ++ ending)))
  | words => startInPlace start shownPath words

def printSettings (arguments : List String) : Program Unit := do
  let g ← givenTo (flags "0") arguments
  let ending := if g.has '0' then "\x00" else "\n"
  let environment := (← get).environment
  if g.operands.isEmpty then
    Program.printText
      (String.join (environment.map fun (name, value) => name ++ "=" ++ value ++ ending))
  else
    g.operands.forM fun name => do
      match environment.lookup name with
      | some value => Program.printText (value ++ ending)
      | none => Program.setStatus 1

def microseconds? (s : String) : Option Nat := do
  let chars := s.toList
  let unit := chars.getLast?.getD 's'
  let (factor, digits) : Nat × List Char :=
    match unit with
    | 's' => (1, chars.dropLast)
    | 'm' => (60, chars.dropLast)
    | 'h' => (3600, chars.dropLast)
    | 'd' => (86400, chars.dropLast)
    | _ => (1, chars)
  if String.ofList digits = "inf" || String.ofList digits = "infinity" then
    return Nat.pow 10 15
  let n ← readFixed? (String.ofList digits)
  if n.value < 0 then none
  else return n.value.toNat * factor * 1000000 / Nat.pow 10 n.decimals

/-- Waits for so many microseconds. Behind the end of the shell the files stay as they are. -/
def wait (duration : Nat) : Program Unit := do
  let p ← get
  let w := p.world
  let w :=
    if w.isEnding && w.kept.isNone && 0 < duration then { w with kept := some w.files } else w
  let till := w.clock + duration
  match w.deadline with
  | some deadline =>
    if deadline < till then
      let signals := w.signals ++ [⟨p.parent, 15⟩]
      set { p with world := { w with clock := deadline, signals := signals } }
      throw (.signal 15)
    else set { p with world := { w with clock := till } }
  | none => set { p with world := { w with clock := till } }

def waitFor (arguments : List String) : Program Unit := do
  let g ← givenTo [] arguments
  if g.operands.isEmpty then Program.refuseUsage 1 "missing operand"
  let durations := g.operands.map fun s => (s, microseconds? s)
  durations.forM fun (s, duration) => do
    if duration.isNone then Program.complain ("invalid time interval " ++ shownPath s)
  if durations.any (·.2.isNone) then
    Program.pointToHelp
    Program.finish 1
  wait ((durations.filterMap (·.2)).foldl (· + ·) 0)

def startLimited (start : Starter) (arguments : List String) : Program Unit := do
  let g ← givenToPassing (flags "vfp" ++ settings "ks" ++ [⟨'k', "kill-after", true⟩,
    ⟨'s', "signal", true⟩, ⟨'f', "foreground", false⟩, ⟨'p', "preserve-status", false⟩])
    arguments
  match g.operands with
  | duration :: name :: arguments =>
    match microseconds? duration with
    | none => Program.refuseUsage passingStatus ("invalid time interval " ++ shownPath duration)
    | some n =>
      let before := (← get).world.deadline
      let deadline := (← get).world.clock + n
      let setDeadline (d : Option Nat) : Program Unit := modify fun p =>
        { p with world := { p.world with deadline := d } }
      if n ≠ 0 then setDeadline (some (min deadline (before.getD deadline)))
      match ← start name arguments with
      | .error fault =>
        Program.complain (cannotRun name ++ ": " ++ faultWording fault)
        Program.finish (statusOfFault fault)
      | .ok exit =>
        setDeadline before
        let w := (← get).world
        let isOver := n ≠ 0 && deadline ≤ w.clock && exit = .signal 15
        if isOver then
          let own := (← get).number
          modify fun p =>
            { p with
              world := { p.world with signals := w.signals.filter (·.process ≠ own) } }
          let isKill := [some "KILL", some "9", some "SIGKILL"].contains (g.value? 's')
          if isKill then throw (.signal 9)
          Program.finish (if g.has 'p' then exit.code else 124)
        else throw exit
  | _ =>
    Program.pointToHelp
    Program.finish passingStatus

def startNicely (start : Starter) (arguments : List String) : Program Unit := do
  let isShort (s : String) : Bool :=
    s.length > 1 && s.startsWith "-" && (s.toList.drop 1).all Char.isDigit
  let g ← givenToPassing (settings "n" ++ [⟨'n', "adjustment", true⟩])
    (arguments.dropWhile isShort)
  match g.operands with
  | [] => Program.printText "0\n"
  | words => startInPlace start shownPath words

def startKept (start : Starter) (arguments : List String) : Program Unit := do
  let g ← givenToPassing [] arguments
  if g.operands.isEmpty then Program.refuseUsage passingStatus "missing operand"
  startInPlace start cannotRun g.operands

def startApart (start : Starter) (arguments : List String) : Program Unit := do
  let g ← givenToPassing (flags "cfw") arguments
  startInPlace start (fun name => "failed to execute " ++ name) g.operands

def startBuffered (start : Starter) (arguments : List String) : Program Unit := do
  let g ← givenToPassing (settings "ioe" ++ [⟨'i', "input", true⟩, ⟨'o', "output", true⟩,
    ⟨'e', "error", true⟩]) arguments
  if g.options.isEmpty then
    Program.refuseUsage passingStatus "you must specify a buffering mode option"
  startInPlace start cannotRun g.operands

/-- How words of the input are given to programs. -/
structure Handing where
  /-- The text in arguments that words take the place of. -/
  mark : Option String
  /-- The number of words for a program. -/
  words : Option Nat
  /-- The number of lines for a program. -/
  lines : Option Nat
  shows : Bool

def inParts {α : Type} (size : Nat) : (limit : Nat) → List α → List (List α)
  | 0, _ => []
  | _, [] => []
  | limit + 1, l => l.take size :: inParts size limit (l.drop size)

/-- Lines, where those that end with a blank go on in the next one. -/
def joinedLines : List String → List String
  | [] => []
  | line :: rest =>
    match joinedLines rest with
    | [] => [line]
    | next :: others =>
      if line.endsWith " " || line.endsWith "\t" then (line ++ next) :: others
      else line :: next :: others

/-- The words for each program to be started, and the quote that is not closed. -/
def Handing.shares (h : Handing) (separator : Option Char) (text : String) :
    List (List String) × Option Char :=
  let separated (c : Char) : List String :=
    let items := text.splitOn c.toString
    if items.getLast? = some "" then items.dropLast else items
  match separator, h.mark, h.lines with
  | some c, some _, _ => ((separated c).map ([·]), none)
  | some c, none, lines =>
    let items := separated c
    match h.words.orElse fun _ => lines with
    | some n => (inParts (max n 1) items.length items, none)
    | none => ([items], none)
  | none, some _, _ =>
    let isLineEnd (c : Char) : Bool := c = '\n'
    let lines := (text.splitOn "\n").map fun line =>
      splitQuoted isLineEnd none none (line.toList.dropWhile isWordEnd)
    (lines.flatMap (fun l => l.1.map ([·])), lines.findSome? (·.2))
  | none, none, some n =>
    let lines := (joinedLines (text.splitOn "\n")).map fun line =>
      splitQuoted isWordEnd none none line.toList
    let full := (lines.map (·.1)).filter (!·.isEmpty)
    ((inParts (max n 1) full.length full).map List.flatten, lines.findSome? (·.2))
  | none, none, none =>
    let (items, quote) := splitQuoted isWordEnd none none text.toList
    match h.words with
    | some n => (inParts (max n 1) items.length items, quote)
    | none => ([items], quote)

/-- Starts a program for a share of words. The result is the status, if nothing more is started. -/
def Handing.run (h : Handing) (start : Starter) (words share : List String) :
    Program (Option Nat) := do
  let words := match h.mark with
    | some mark => words.map fun w => (share.headD "").intercalate (w.splitOn mark)
    | none => words ++ share
  if h.shows then
    Program.printTo 2 (ByteText.toBytes (" ".intercalate (words.map plainPath) ++ "\n"))
  match words with
  | [] => return none
  | name :: arguments =>
    match ← start name arguments with
    | .error fault =>
      Program.complain (name ++ ": " ++ faultWording fault)
      return some (statusOfFault fault)
    | .ok (.status 0) => return none
    | .ok (.status 255) =>
      Program.complain (name ++ ": exited with status 255; aborting")
      return some 124
    | .ok (.status _) =>
      Program.setStatus 123
      return none
    | .ok (.signal n) =>
      Program.complain (name ++ ": terminated by signal " ++ toString n)
      return some passingStatus

def startWithWords (start : Starter) (arguments : List String) : Program Unit := do
  let g ← givenStrictlyTo (flags "0rtxp" ++ settings "adEILnPs" ++ [⟨'0', "null", false⟩,
    ⟨'r', "no-run-if-empty", false⟩, ⟨'t', "verbose", false⟩, ⟨'a', "arg-file", true⟩,
    ⟨'d', "delimiter", true⟩, ⟨'n', "max-args", true⟩, ⟨'L', "max-lines", true⟩,
    ⟨'I', "replace", true⟩, ⟨'P', "max-procs", true⟩, ⟨'x', "exit", false⟩]) arguments
  let number (letter : Char) : Program (Option Nat) := do
    match g.value? letter with
    | none => return none
    | some s =>
      match decimal? s with
      | some n => return some n
      | none => Program.refuse ("invalid number " ++ shownPath s ++ " for -" ++ letter.toString ++
          " option")
  let h : Handing := ⟨g.value? 'I', ← number 'n', ← number 'L', g.has 't'⟩
  let separator :=
    if g.has '0' then some '\x00'
    else (g.value? 'd').map fun s =>
      match s.toList with
      | ['\\', c] => (escaped? c).getD c
      | c :: _ => c
      | [] => '\n'
  let input ← match g.value? 'a' with
    | none => Program.takeInput
    | some path =>
      match ← Program.readPath path with
      | .ok b => pure b
      | .error fault =>
        Program.refuse
          ("Cannot open input file " ++ shownPath path ++ ": " ++ faultWording fault)
  let text := ByteText.ofBytes input
  let text := match g.value? 'E' with
    | some mark => "\n".intercalate ((text.splitOn "\n").takeWhile (· ≠ mark))
    | none => text
  let (shares, quote) := h.shares separator text
  let runsOnNothing := !g.has 'r' && h.mark.isNone
  let shares := if shares.all (·.isEmpty) then (if runsOnNothing then [[]] else []) else shares
  match quote with
  | some q =>
    let kind := if q = '"' then "double" else "single"
    Program.object ("unmatched " ++ kind ++ " quote; by default quotes are special to " ++
      (← get).speaker ++ " unless you use the -0 option")
  | none => pure ()
  let before := (← get).descriptors
  modify fun p =>
    let (id, w) := p.world.add ⟨.null, 0, false, true, false⟩
    { p with
      world := w, descriptors := (0, id) :: before.filter (·.1 ≠ 0) }
  let words := if g.operands.isEmpty then ["echo"] else g.operands
  let stopped ← shares.foldlM (fun (stopped : Option Nat) share => do
    if stopped.isSome then return stopped else h.run start words share) none
  modify fun p => { p with descriptors := before }
  match stopped with
  | some status => Program.finish status
  | none => return ()

def printPlaces (arguments : List String) : Program Unit := do
  let g ← givenStrictlyTo (flags "as") arguments
  if g.operands.isEmpty then Program.finish 1
  g.operands.forM fun name => do
    let p ← get
    let searchPath := (p.environment.lookup "PATH").getD defaultPath
    let paths := if name.toList.contains '/' then [name] else candidates searchPath name
    let found := paths.filter fun path => (startable p.world path).isOk
    if found.isEmpty then Program.setStatus 1
    else if !g.has 's' then printLines (if g.has 'a' then found else found.take 1)

end FlashImage.Shell
