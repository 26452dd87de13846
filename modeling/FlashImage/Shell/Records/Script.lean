import FlashImage.Shell.Records.Value
import FlashImage.Shell.Regex.Reader

/-!
Scripts for records: rules that say what is done with which records.

A term has a value, and a step does something. Names stand for values and for tables.
-/

set_option autoImplicit false
set_option relaxedAutoImplicit false

namespace FlashImage.Shell.Records

/-- What two numbers are made into one by. -/
inductive Sum
  | add
  | subtract
  | multiply
  | divide
  | remainder
  | power
  deriving DecidableEq, Repr

/-- How two values are compared. -/
inductive Relation
  | less
  | atMost
  | equal
  | unequal
  | atLeast
  | more
  deriving DecidableEq, Repr

/-- A term. -/
inductive Term
  | number (x : Float)
  | text (s : String)
  | pattern (r : Regex)
  | named (name : String)
  | field (position : Term)
  | element (table : String) (keys : List Term)
  | assigned (sum : Option Sum) (target value : Term)
  /-- A place whose number is changed by one. The value is that from before or from behind. -/
  | stepped (isBefore : Bool) (sum : Sum) (target : Term)
  | chosen (condition first second : Term)
  | either (first second : Term)
  | both (first second : Term)
  | has (keys : List Term) (table : String)
  | fits (isWanted : Bool) (subject pattern : Term)
  | related (relation : Relation) (first second : Term)
  | joined (first second : Term)
  | sum (kind : Sum) (first second : Term)
  | not (part : Term)
  | negated (part : Term)
  | plain (part : Term)
  /-- Terms in brackets. -/
  | group (parts : List Term)
  | called (name : String) (arguments : List Term)
  | built (name : String) (arguments : List Term)
  /-- The next line of the records. -/
  | nextLine (target : Option Term)
  | lineOf (path : Term) (target : Option Term)
  | lineFrom (command : Term) (target : Option Term)

/-- Where something is printed. -/
inductive OutletKind
  | file
  | fileEnd
  | command
  deriving DecidableEq, Repr

/-- A step. -/
inductive Step
  | term (t : Term)
  | print (values : List Term) (outlet : Option (OutletKind × Term))
  | printFormat (values : List Term) (outlet : Option (OutletKind × Term))
  | choice (condition : Term) (first second : Step)
  | loop (condition : Term) (after body : Step)
  | loopBehind (body : Step) (condition : Term)
  | each (name table : String) (body : Step)
  | block (steps : List Step)
  | next
  | nextFile
  | exit (status : Option Term)
  | return (value : Option Term)
  | leave
  | again
  /-- Takes a key out of a table, or all of them. -/
  | erase (table : String) (keys : List Term)

/-- Which records a rule is for. -/
inductive Selector
  | start
  | finish
  | all
  | term (t : Term)
  /-- The records from one that meets a term on up to one that meets another one. -/
  | range (number : Nat) (first last : Term)

/-- A rule. -/
structure Rule where
  selector : Selector
  body : Step

/-- A function of a script. -/
structure Function where
  name : String
  parameters : List String
  body : Step

/-- A script. -/
structure Script where
  rules : List Rule
  functions : List Function

def Term.isPlace : Term → Bool
  | .named _ => true
  | .field _ => true
  | .element _ _ => true
  | _ => false

end FlashImage.Shell.Records
