/-!
The commands of shell scripts, and the words that they are made of.

A word is a list of parts that follow one another without a blank. Words hold commands whose output
they stand for, so the types depend on one another.
-/

set_option autoImplicit false
set_option relaxedAutoImplicit false

namespace FlashImage.Shell

/-- What is done about a parameter that has no value. -/
inductive Fallback
  /-- Another text stands for it. -/
  | use
  /-- It is given a value. -/
  | assign
  /-- The script ends with a complaint. -/
  | refuse
  /-- Nothing, but a text stands for a parameter that has a value. -/
  | alternative
  deriving DecidableEq, Repr

/-- What a redirection does to a descriptor. -/
inductive RedirectKind
  | read
  | write
  /-- Writes to a file even if it is there already and may not be overwritten. -/
  | overwrite
  | append
  /-- Reads from a file and writes to it. -/
  | update
  /-- Reads from where another descriptor reads. -/
  | copyInput
  /-- Writes to where another descriptor writes. -/
  | copyOutput
  /-- Reads the text of the script itself. -/
  | document
  deriving DecidableEq, Repr

mutual

/-- A part of a word. -/
inductive Part
  /-- A character without quotes, which may be the sign of a pattern. -/
  | plain (c : Char)
  /-- A text in quotes. -/
  | fixed (s : String)
  /-- What a parameter stands for. Within quotes it is not split into fields. -/
  | parameter (name : String) (use : Use) (quoted : Bool)
  /-- The output of a command. -/
  | output (c : Command) (quoted : Bool)
  /-- The value of an expression. -/
  | value (expression : List Part) (quoted : Bool)

/-- What is made of the value of a parameter. -/
inductive Use
  | value
  | size
  /-- A parameter without a value is dealt with. The empty value may count as none. -/
  | fallback (kind : Fallback) (orEmpty : Bool) (word : List Part)
  /-- What a pattern fits is taken from the start or the end. -/
  | trim (atEnd longest : Bool) (pattern : List Part)
  /-- Nothing that has a meaning. -/
  | unknown

/-- A redirection of a descriptor. -/
inductive Redirection
  | mk (descriptor : Nat) (kind : RedirectKind) (target : List Part)

/-- A command, and the line of the script that it starts on. -/
inductive Command
  | nothing
  /-- Sets variables, or runs a program with them. -/
  | simple (line : Nat) (assignments : List (String × List Part)) (words : List (List Part))
      (redirections : List Redirection)
  | redirected (line : Nat) (c : Command) (redirections : List Redirection)
  /-- Runs in a shell of its own. -/
  | subshell (line : Nat) (c : Command) (redirections : List Redirection)
  /-- Runs while the script goes on. -/
  | background (line : Nat) (c : Command) (redirections : List Redirection)
  /-- Each command reads what the one before it writes. -/
  | pipe (commands : List Command)
  | negated (c : Command)
  /-- Runs the second command if the first succeeds. -/
  | both (first second : Command)
  /-- Runs the second command if the first fails. -/
  | either (first second : Command)
  | sequence (first second : Command)
  | branch (condition yes no : Command)
  /-- Runs the body as long as the condition succeeds, or as long as it fails. -/
  | loop (untilTrue : Bool) (condition body : Command)
  | each (line : Nat) (name : String) (words : List (List Part)) (body : Command)
  /-- Runs the body of the first branch with a pattern that fits the subject. -/
  | choose (line : Nat) (subject : List Part) (branches : List (List (List Part) × Command))
  | define (line : Nat) (name : String) (body : Command)

end

instance : Inhabited Command := ⟨.nothing⟩

/-- The parts of a word, which follow one another without a blank. -/
abbrev Word := List Part

def Word.plainText? (w : Word) : Option String :=
  (w.mapM plainChar?).map String.ofList
where
  plainChar? : Part → Option Char
    | .plain c => some c
    | _ => none

end FlashImage.Shell
