import FlashImage.Shell.Process
import FlashImage.Text.Blank

/-!
The signals that a program can send to itself.

Signals have numbers, and most of them names. Most of them end a program that does not handle them;
the others leave it running. A command asks for a signal by an option, and names the processes to
send it to.
-/

set_option autoImplicit false
set_option relaxedAutoImplicit false

namespace FlashImage.Shell

/-- The names of the signals from the first one on, up to the real-time ones. -/
def signalNames : List String :=
  ["HUP", "INT", "QUIT", "ILL", "TRAP", "ABRT", "BUS", "FPE", "KILL", "USR1", "SEGV", "USR2",
    "PIPE", "ALRM", "TERM", "STKFLT", "CHLD", "CONT", "STOP", "TSTP", "TTIN", "TTOU", "URG", "XCPU",
    "XFSZ", "VTALRM", "PROF", "WINCH", "IO", "PWR", "SYS"]

def signalName? (n : Nat) : Option String :=
  if n = 0 then none else signalNames[n - 1]?.map ("SIG" ++ ·)

def terminate : Nat := 15

def stackFault : Nat := 16

def firstRealTime : Nat := 34

/-- The names of the real-time signals, the lower half counted from the first one and the upper half
from the last one. -/
def realTimeNames : List String :=
  "RTMIN" :: (List.range 15).map (fun i => "RTMIN+" ++ toString (i + 1)) ++
    (List.range 14).map (fun i => "RTMAX-" ++ toString (14 - i)) ++ ["RTMAX"]

def lastSignal : Nat := firstRealTime + realTimeNames.length - 1

/-- The signals that leave a program as it is. The first is no signal but a question. -/
def harmlessSignals : List Nat := [0, 17, 18, 19, 20, 21, 22, 23, 28]

/-- What is said of a program that a signal has ended. The interrupt and the pipe without a reader
are passed over. -/
def endingText? (n : Nat) : Option String :=
  let texts := ["Hangup", "", "Quit", "Illegal instruction", "Trace/breakpoint trap", "Aborted",
    "Bus error", "Floating point exception", "Killed", "User defined signal 1",
    "Segmentation fault", "User defined signal 2", "", "Alarm clock", "Terminated", "Stack fault",
    "Child exited", "Continued", "Stopped (signal)", "Stopped", "Stopped (tty input)",
    "Stopped (tty output)", "Urgent I/O condition", "CPU time limit exceeded",
    "File size limit exceeded", "Virtual timer expired", "Profiling timer expired",
    "Window changed", "I/O possible", "Power failure", "Bad system call"]
  if firstRealTime ≤ n then some ("Real-time signal " ++ toString (n - firstRealTime))
  else if n = 0 then none
  else (texts[n - 1]?).filter (· ≠ "")

def endsProgram (n : Nat) : Bool := !harmlessSignals.contains n

def scriptName? (n : Nat) : Option String :=
  if n = 0 ∨ n = stackFault then none
  else if n < firstRealTime then signalNames[n - 1]?
  else realTimeNames[n - firstRealTime]?

/-- The signal that a text stands for: its number, or its name in letters of any case. -/
def signalOf? (text : String) : Option Nat :=
  match decimal? text with
  | some n => if n ≤ lastSignal then some n else none
  | none => (List.range (lastSignal + 1)).find? fun n => scriptName? n = some text.toUpper

/-- What a command for signals asks for. -/
inductive SignalRequest
  | send (signal : Nat) (processes : List String)
  | names
  | nameOf (signal : Nat)
  /-- Nothing, as the arguments cannot be read. -/
  | refused (wording : String)
  deriving DecidableEq, Repr

def signalUsage : String :=
  "Usage: kill [-s sigspec | -signum | -sigspec] [pid | job]... or\nkill -l [exitstatus]"

def SignalRequest.to (signal : Nat) (processes : List String) : SignalRequest :=
  if processes.isEmpty then .refused signalUsage else .send signal processes

def SignalRequest.named (text : String) (processes : List String) : SignalRequest :=
  match signalOf? text with
  | some n => .to n (processes.dropWhile (· = "--"))
  | none => .refused ("invalid signal number or name: " ++ text)

def SignalRequest.read : List String → SignalRequest
  | [] => .refused signalUsage
  | "--" :: rest => .to terminate rest
  | ["-l"] => .names
  | "-l" :: text :: _ =>
    match decimal? text with
    | some n =>
      let signal := if 128 < n then n - 128 else n
      if (scriptName? signal).isSome then .nameOf signal
      else .refused ("invalid signal number or exit status: " ++ text)
    | none => .refused ("Illegal number: " ++ text)
  | ["-s"] => .refused "No arg for -s option"
  | "-s" :: text :: rest => .named text rest
  | first :: rest =>
    match first.toList with
    | '-' :: text =>
      match signalOf? (String.ofList text), text with
      | some n, _ => .to n rest
      | none, 's' :: name => .named (String.ofList name) rest
      | none, c :: _ => .refused ("Illegal option -" ++ c.toString)
      | none, [] => .to terminate (first :: rest)
    | _ => .to terminate (first :: rest)

def processLimit : Nat := 2147483648

/-- The number of a process. There may be blanks and a sign in front of it. -/
def processNumber? (text : String) : Option Int :=
  let number? := fun (digits : List Char) =>
    (decimal? (String.ofList digits)).filter (· < processLimit)
  match Text.trimStart text.toList with
  | '-' :: digits => (number? digits).map fun n => -(n : Int)
  | '+' :: digits => (number? digits).map fun n => (n : Int)
  | digits => (number? digits).map fun n => (n : Int)

end FlashImage.Shell
