/-!
Command lines: options with their values, and the names of commands.

An option is given by its long name or its short one. A value follows as an argument of its own, or
it is attached. Arguments that start with a dash are never values, unless they are the dash alone.
-/

set_option autoImplicit false
set_option relaxedAutoImplicit false

namespace FlashImage

inductive Arity
  | none
  | one
  /-- At least one, and as many as follow. -/
  | many
  deriving DecidableEq, Repr

structure OptionRule where
  long : String
  short : Option Char
  arity : Arity
  /-- Whether the option may be given more than once. -/
  repeatable : Bool
  /-- Whether a text is a value of the option. -/
  accepts : String → Bool

structure CommandRule where
  options : List OptionRule
  /-- The names of the commands below it. -/
  commands : List String
  /-- Whether it can be asked for the version of the program. -/
  hasVersion : Bool

/-- Options that have been given, by their long names, each with all its values. -/
abbrev GivenOptions := List (String × List String)

namespace GivenOptions

def has (g : GivenOptions) (long : String) : Bool := (g.lookup long).isSome

def values (g : GivenOptions) (long : String) : List String := (g.lookup long).getD []

def value? (g : GivenOptions) (long : String) : Option String := (g.values long).head?

def add (g : GivenOptions) (long : String) (values : List String) : GivenOptions :=
  if g.has long then g.map fun (l, vs) => (l, if l = long then vs ++ values else vs)
  else g ++ [(long, values)]

end GivenOptions

/-- Why the reading of a command line ends early. -/
inductive EarlyEnd
  /-- The command line is not accepted. -/
  | refused
  | help
  | version
  deriving DecidableEq, Repr

structure OptionState where
  given : GivenOptions
  pending : Option (OptionRule × List String)

namespace OptionState

def start : OptionState := ⟨[], none⟩

def record (st : OptionState) (r : OptionRule) (values : List String) :
    Except EarlyEnd OptionState :=
  if !values.all r.accepts then .error .refused
  else if st.given.has r.long && !r.repeatable then .error .refused
  else .ok { st with given := st.given.add r.long values }

def settle (st : OptionState) : Except EarlyEnd OptionState :=
  match st.pending with
  | none => .ok st
  | some (_, []) => .error .refused
  | some (r, values) => { st with pending := none }.record r values

/-- Whether the next argument is a value, if it can be one. -/
def isOpen (st : OptionState) : Bool :=
  match st.pending with
  | none => false
  | some (r, values) => r.arity == .many || values.isEmpty

def addValue (st : OptionState) (value : String) : OptionState :=
  { st with pending := st.pending.map fun (r, values) => (r, values ++ [value]) }

/-- Reads an option, which may have a value attached. -/
def addOption (st : OptionState) (r : OptionRule) (attached : Option String) :
    Except EarlyEnd OptionState := do
  let st ← st.settle
  match r.arity, attached with
  | .none, none => st.record r []
  | .none, some _ => .error .refused
  | _, some value => st.record r [value]
  | _, none => return { st with pending := some (r, []) }

end OptionState

def CommandRule.readLong (c : CommandRule) (st : OptionState) (s : List Char) :
    Except EarlyEnd OptionState :=
  let name := String.ofList (s.takeWhile (· ≠ '='))
  let attached := match s.dropWhile (· ≠ '=') with
    | [] => none
    | _ :: value => some (String.ofList value)
  match c.options.find? (·.long = name) with
  | some r => st.addOption r attached
  | none =>
    if attached.isNone && name = "help" then st.settle >>= fun _ => .error .help
    else if attached.isNone && name = "version" && c.hasVersion then
      st.settle >>= fun _ => .error .version
    else .error .refused

def CommandRule.readShort (c : CommandRule) (st : OptionState) :
    List Char → Except EarlyEnd OptionState
  | [] => .ok st
  | letter :: rest =>
    match c.options.find? (·.short = some letter) with
    | some r =>
      if r.arity = .none then do c.readShort (← st.addOption r none) rest
      else
        match rest with
        | [] => st.addOption r none
        | '=' :: value => st.addOption r (some (String.ofList value))
        | value => st.addOption r (some (String.ofList value))
    | none =>
      if letter = 'h' then st.settle >>= fun _ => .error .help
      else if letter = 'V' && c.hasVersion then st.settle >>= fun _ => .error .version
      else .error .refused

/-- What the arguments of a command give: its options, and the command below it with the arguments
of that one. -/
structure ReadCommand where
  given : GivenOptions
  below : Option (String × List String)

def CommandRule.read (c : CommandRule) (st : OptionState) :
    List String → Except EarlyEnd ReadCommand
  | [] => do return ⟨(← st.settle).given, none⟩
  | argument :: rest =>
    if !st.isOpen && c.commands.contains argument then do
      return ⟨(← st.settle).given, some (argument, rest)⟩
    else
      match argument.toList with
      | ['-', '-'] =>
        if rest.isEmpty then do return ⟨(← st.settle).given, none⟩ else .error .refused
      | '-' :: '-' :: name => do c.read (← c.readLong st name) rest
      | '-' :: letter :: letters => do c.read (← c.readShort st (letter :: letters)) rest
      | _ => if st.isOpen then c.read (st.addValue argument) rest else .error .refused

end FlashImage
