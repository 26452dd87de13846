import FlashImage.Shell.Regex.Basic

/-!
The commands of an editor of lines, and where they apply.

A command applies to the lines that its addresses choose. Commands stand in one list, where a block
says how many commands behind it belong to it.
-/

set_option autoImplicit false
set_option relaxedAutoImplicit false

namespace FlashImage.Shell

/-- Something that chooses lines. -/
inductive LineAddress
  | number (n : Nat)
  | last
  /-- The lines that an expression fits. Without one, that is the expression which has been used
  last. -/
  | fitting (r : Option Regex) (foldsCase : Bool)
  | every (first step : Nat)
  deriving Repr

/-- What ends a range of lines. -/
inductive RangeEnd
  | address (a : LineAddress)
  | count (n : Nat)
  | multiple (n : Nat)
  deriving Repr

/-- The lines that a command applies to. -/
inductive LineChoice
  | all
  | single (a : LineAddress)
  | range (first : LineAddress) (last : RangeEnd)
  deriving Repr

/-- A change of the case of letters. -/
inductive CaseChange
  | upper
  | lower
  | none
  | upperNext
  | lowerNext
  deriving DecidableEq, Repr

/-- A part of the text that replaces another. -/
inductive ReplacementPart
  | text (s : String)
  /-- The text of a group, or of the whole for the number zero. -/
  | group (n : Nat)
  | letters (c : CaseChange)
  deriving DecidableEq, Repr

/-- A replacement of what an expression fits. -/
structure Substitution where
  regex : Option Regex
  foldsCase : Bool
  hasLines : Bool
  parts : List ReplacementPart
  everywhere : Bool
  /-- Which of the places is replaced first. -/
  number : Nat
  prints : Bool
  file : Option String
  deriving Repr

/-- Where a text goes that a command adds. -/
inductive TextPlace
  | before
  | behind
  | instead
  deriving DecidableEq, Repr

/-- What a command does. -/
inductive EditAction
  /-- Leaves out so many commands unless the command applies. -/
  | block (size : Nat)
  | add (place : TextPlace) (text : String)
  | branch (label : String)
  /-- Branches if something has been replaced, or if nothing has. -/
  | branchIf (replaced : Bool) (label : String)
  | label (name : String)
  | delete
  | deleteFirst
  | showNumber
  | showName
  | copyHeld
  | appendHeld
  | hold
  | appendToHeld
  | exchange
  /-- Prints the buffer so that each character can be seen, in lines of a width if it is given. -/
  | list (width : Option Nat)
  | next
  | appendNext
  | print
  | printFirst
  | quit (status : Nat) (prints : Bool)
  | readFile (path : String)
  | readLine (path : String)
  | substitute (s : Substitution)
  | writeFile (path : String)
  | writeFirst (path : String)
  | translate (pairs : List (Char × Char))
  | clear
  | nothing
  deriving Repr

/-- A command of the editor. -/
structure EditCommand where
  choice : LineChoice
  negated : Bool
  action : EditAction
  deriving Repr

end FlashImage.Shell
