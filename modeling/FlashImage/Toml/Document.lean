import FlashImage.Toml.Key
import FlashImage.Toml.Scalar
import FlashImage.Toml.Table

/-!
TOML documents: how a text is read as a table.

The text is read as a sequence of statements first. Then each header and the entries below it are
added to the document.
-/

set_option autoImplicit false
set_option relaxedAutoImplicit false

namespace FlashImage.Toml

/-- Reads the items of an array, behind the opening bracket. Comments and line ends may stand
anywhere between them, and a comma behind the last one. -/
def readItems (item : List Char → Option (Value × List Char)) :
    (limit : Nat) → List Char → Option (List Value × List Char)
  | 0, _ => none
  | limit + 1, s => do
    match ← skipLines? false s with
    | ']' :: rest => some ([], rest)
    | s =>
      let (v, rest) ← item s
      match ← skipLines? false rest with
      | ',' :: rest =>
        let (vs, rest) ← readItems item limit rest
        some (v :: vs, rest)
      | ']' :: rest => some ([v], rest)
      | _ => none

def readPair (item : List Char → Option (Value × List Char)) (s : List Char) :
    Option ((List String × Value) × List Char) := do
  let (path, rest) ← readPath s
  match rest with
  | '=' :: rest =>
    let (v, rest) ← item (skipBlanks rest)
    some ((path, v), skipBlanks rest)
  | _ => none

def readPairs (item : List Char → Option (Value × List Char)) :
    (limit : Nat) → List Char → Option (List (List String × Value) × List Char)
  | 0, _ => none
  | limit + 1, s => do
    let (pair, rest) ← readPair item s
    match rest with
    | ',' :: rest =>
      let (pairs, rest) ← readPairs item limit rest
      some (pair :: pairs, rest)
    | '\x7d' :: rest => some ([pair], rest)
    | _ => none

/-- Reads a value. Arrays and tables are nested at most `depth` levels deep. -/
def readValue : (depth : Nat) → List Char → Option (Value × List Char)
  | depth, '[' :: rest =>
    match depth with
    | 0 => none
    | depth + 1 => do
      let (items, rest) ← readItems (readValue depth) rest.length rest
      some (.array items, rest)
  | depth, '\x7b' :: rest =>
    match depth with
    | 0 => none
    | depth + 1 => do
      match skipBlanks rest with
      | '\x7d' :: rest => some (.table .inline [], rest)
      | rest =>
        let (pairs, rest) ← readPairs (readValue depth) rest.length rest
        let entries ← addEntries pairs []
        some (.table .inline entries, rest)
  | _, '"' :: rest => do
    let (s, rest) ← readString ('"' :: rest)
    some (.text s, rest)
  | _, '\'' :: rest => do
    let (s, rest) ← readString ('\'' :: rest)
    some (.text s, rest)
  | _, s => readWord s

inductive Statement
  | entry (path : List String) (v : Value)
  /-- The header of a table. -/
  | table (path : List String)
  /-- The header of a table in an array of tables. -/
  | item (path : List String)

def readStatement : List Char → Option (Statement × List Char)
  | '[' :: '[' :: rest => do
    let (path, rest) ← readPath rest
    match rest with
    | ']' :: ']' :: rest => some (.item path, ← lineEnd? rest)
    | _ => none
  | '[' :: rest => do
    let (path, rest) ← readPath rest
    match rest with
    | ']' :: rest => some (.table path, ← lineEnd? rest)
    | _ => none
  | s => do
    let ((path, v), rest) ← readPair (readValue (depthLimit - 1)) s
    some (.entry path v, ← lineEnd? rest)

/-- Whether a line begins that holds no statement. -/
def beginsBlankLine (c : Char) : Bool := c == '#' || c == '\n' || c == '\r'

/-- Reads statements up to the end of the text, one line or statement for each unit of `limit`.
Each takes at least one character. -/
def readStatements : (limit : Nat) → List Char → Option (List Statement)
  | 0, s => if s.isEmpty then some [] else none
  | limit + 1, s =>
    match skipBlanks s with
    | [] => some []
    | c :: rest =>
      if beginsBlankLine c then do readStatements limit (← lineEnd? (c :: rest))
      else do
        let (statement, rest) ← readStatement (c :: rest)
        let statements ← readStatements limit rest
        some (statement :: statements)

/-- Takes the entries off the start of a list of statements, up to the first header. -/
def takeEntries : List Statement → List (List String × Value) × List Statement
  | .entry path v :: rest =>
    let (body, rest) := takeEntries rest
    ((path, v) :: body, rest)
  | statements => ([], statements)

private theorem length_takeEntries_le (statements : List Statement) :
    (takeEntries statements).2.length ≤ statements.length := by
  fun_induction takeEntries statements with
  | case1 path v rest body tail h ih =>
    simp only [h] at ih
    exact Nat.le_succ_of_le ih
  | case2 => exact Nat.le_refl _

/-- Adds statements to a document, a header together with the entries below it. -/
def addStatements (entries : Entries) : List Statement → Option Entries
  | [] => some entries
  | .entry path v :: rest => do addStatements (← addEntry path v entries) rest
  | .table path :: rest =>
    have := length_takeEntries_le rest
    do addStatements (← addTable path (takeEntries rest).1 entries) (takeEntries rest).2
  | .item path :: rest =>
    have := length_takeEntries_le rest
    do addStatements (← addItem path (takeEntries rest).1 entries) (takeEntries rest).2
termination_by statements => statements.length

def dropMark : List Char → List Char
  | '\uFEFF' :: rest => rest
  | s => s

def readDocument (text : String) : Option Entries := do
  let s := dropMark text.toList
  let statements ← readStatements s.length s
  addStatements [] statements

end FlashImage.Toml
