import FlashImage.Shell.Records.Value
import FlashImage.Shell.Regex.Reader

/-!
The lexemes of scripts for records.

A slash starts a pattern where a term may start, and is a sign else. The patterns have the escapes
of texts, so they are replaced before a pattern is read.
-/

set_option autoImplicit false
set_option relaxedAutoImplicit false

namespace FlashImage.Shell.Records

/-- A lexeme. -/
inductive Lexeme
  | number (x : Float)
  | text (s : String)
  | pattern (s : String)
  | word (s : String)
  /-- A name right in front of a bracket. -/
  | call (s : String)
  | sign (s : String)
  | lineBreak

/-- Why a script cannot be read: the line, and the wording. -/
structure ScriptFault where
  line : Nat
  wording : String

def longSigns : List String :=
  ["&&", "||", "==", "<=", ">=", "!=", "!~", "++", "--", "+=", "-=", "*=", "/=", "%=", "^=", ">>"]

def reservedWords : List String :=
  ["BEGIN", "END", "function", "if", "else", "while", "for", "do", "break", "continue",
    "next", "nextfile", "exit", "return", "delete", "in", "getline", "print", "printf"]

def builtNames : List String :=
  ["length", "substr", "index", "split", "sub", "gsub", "match", "sprintf", "sin", "cos", "atan2",
    "exp", "log", "sqrt", "int", "rand", "srand", "tolower", "toupper", "system", "close", "fflush",
    "systime"]

def startsName (c : Char) : Bool := c.isAlpha || c = '_'

def takeEscape (s : List Char) : List Char × List Char :=
  match s with
  | '"' :: rest => (['"'], rest)
  | '\n' :: rest => ([], rest)
  | 'x' :: rest =>
    let (digits, behind) := takeDigits 16 2 rest
    if digits.isEmpty then (['\\', 'x'], rest) else ([byteChar (valueOf 16 digits)], behind)
  | 'e' :: rest => (['\\', 'e'], rest)
  | s => readEscape s

def unescaped : (limit : Nat) → List Char → List Char
  | 0, _ => []
  | _ + 1, [] => []
  | limit + 1, '\\' :: rest =>
    let (b, rest) := takeEscape rest
    b ++ unescaped limit rest
  | limit + 1, c :: rest => c :: unescaped limit rest

def takeText : (limit : Nat) → List Char → Option (List Char × List Char)
  | 0, _ => none
  | _ + 1, [] => none
  | _ + 1, '"' :: rest => some ([], rest)
  | _ + 1, '\n' :: _ => none
  | limit + 1, '\\' :: rest =>
    let (b, rest) := takeEscape rest
    (takeText limit rest).map fun (s, rest) => (b ++ s, rest)
  | limit + 1, c :: rest => (takeText limit rest).map fun (s, rest) => (c :: s, rest)

def takePattern (inSet : Bool) : List Char → Option (List Char × List Char)
  | [] => none
  | '\n' :: _ => none
  | '\\' :: '/' :: rest => (takePattern inSet rest).map fun (s, rest) => ('/' :: s, rest)
  | '\\' :: c :: rest => (takePattern inSet rest).map fun (s, rest) => ('\\' :: c :: s, rest)
  | '[' :: '^' :: ']' :: rest =>
    if inSet then (takePattern true rest).map fun (s, rest) => ('[' :: '^' :: ']' :: s, rest)
    else (takePattern true rest).map fun (s, rest) => ('[' :: '^' :: ']' :: s, rest)
  | '[' :: ']' :: rest =>
    (takePattern (!inSet) rest).map fun (s, rest) => ('[' :: ']' :: s, rest)
  | '[' :: rest => (takePattern true rest).map fun (s, rest) => ('[' :: s, rest)
  | ']' :: rest => (takePattern false rest).map fun (s, rest) => (']' :: s, rest)
  | '/' :: rest =>
    if inSet then (takePattern true rest).map fun (s, rest) => ('/' :: s, rest) else some ([], rest)
  | c :: rest => (takePattern inSet rest).map fun (s, rest) => (c :: s, rest)

def Lexeme.opensTerm : Lexeme → Bool
  | .number _ => false
  | .text _ => false
  | .pattern _ => false
  | .word s => reservedWords.contains s
  | .call _ => true
  | .sign s => s ∉ [")", "]", "$", "++", "--"]
  | .lineBreak => true

/-- Splits a script into lexemes, each with the number of its line. -/
def lexemesOf : (limit : Nat) → (line : Nat) → (opens : Bool) → List Char →
    Except ScriptFault (List (Nat × Lexeme))
  | 0, _, _, _ => .ok []
  | _ + 1, _, _, [] => .ok []
  | limit + 1, line, _, '\n' :: rest => do
    return (line, .lineBreak) :: (← lexemesOf limit (line + 1) true rest)
  | limit + 1, line, opens, '\\' :: '\n' :: rest => lexemesOf limit (line + 1) opens rest
  | limit + 1, line, opens, '#' :: rest => lexemesOf limit line opens (rest.dropWhile (· ≠ '\n'))
  | limit + 1, line, _, '"' :: rest =>
    match takeText (rest.length + 1) rest with
    | some (s, rest) => do
      return (line, .text (String.ofList s)) :: (← lexemesOf limit line false rest)
    | none =>
      .error ⟨line, "runaway string constant \"" ++ shownStart rest⟩
  | limit + 1, line, opens, c :: rest =>
    if c = ' ' || c = '\t' || c = '\r' then lexemesOf limit line opens rest
    else if c = '/' && opens then
      match takePattern false rest with
      | some (s, rest) => do
        return (line, .pattern (String.ofList s)) :: (← lexemesOf limit line false rest)
      | none => .error ⟨line, "runaway regular expression /" ++ shownStart rest⟩
    else if startsName c then do
      let name := (c :: rest).takeWhile fun c => startsName c || c.isDigit
      let behind := (c :: rest).drop name.length
      let word := String.ofList name
      let isKnown := reservedWords.contains word || builtNames.contains word
      let lexeme : Lexeme :=
        if behind.head? = some '(' && !isKnown then .call word else .word word
      return (line, lexeme) :: (← lexemesOf limit line lexeme.opensTerm behind)
    else
      match if c.isDigit || c = '.' then Real.readDigits (c :: rest) else none with
      | some ((n, e), behind) => do
        return (line, .number (scaledNumber n e)) :: (← lexemesOf limit line false behind)
      | none => do
        let pair := String.ofList (c :: rest.take 1)
        let (sign, behind) :=
          if longSigns.contains pair then (pair, rest.drop 1) else (c.toString, rest)
        return (line, .sign sign) :: (← lexemesOf limit line (Lexeme.sign sign).opensTerm behind)
where
  shownStart (s : List Char) : String := String.ofList ((s.takeWhile (· ≠ '\n')).take 10) ++ " ..."

def isPatternSign (c : Char) : Bool := "\\^$.[]|()*+?\x7b\x7d-/".toList.contains c

def plainPattern : (limit : Nat) → (inSet : Bool) → List Char → List Char
  | 0, _, _ => []
  | _ + 1, _, [] => []
  | limit + 1, false, '[' :: '^' :: ']' :: rest =>
    '[' :: '^' :: ']' :: plainPattern limit true rest
  | limit + 1, false, '[' :: ']' :: rest => '[' :: ']' :: plainPattern limit true rest
  | limit + 1, false, '[' :: rest => '[' :: plainPattern limit true rest
  | limit + 1, true, '[' :: ':' :: rest =>
    let name := rest.takeWhile (· ≠ ']')
    '[' :: ':' :: name ++ ']' :: plainPattern limit true (rest.drop (name.length + 1))
  | limit + 1, true, ']' :: rest => ']' :: plainPattern limit false rest
  | limit + 1, inSet, '\\' :: c :: rest =>
    if c.isAlphanum then
      let (b, behind) := takeEscape (c :: rest)
      match b with
      | ['\\', d] => d :: plainPattern limit inSet behind
      | [d] =>
        if isPatternSign d && !inSet then '\\' :: d :: plainPattern limit inSet behind
        else d :: plainPattern limit inSet behind
      | b => b ++ plainPattern limit inSet behind
    else if inSet then c :: plainPattern limit true rest
    else if isPatternSign c then '\\' :: c :: plainPattern limit false rest
    else c :: plainPattern limit false rest
  | limit + 1, inSet, c :: rest => c :: plainPattern limit inSet rest

def patternRefusal (wording s : String) : String :=
  let reason :=
    if wording.startsWith "Unmatched (" then " (missing ')')"
    else if wording.startsWith "Unmatched )" then " (extra ')')"
    else ""
  "regular expression compile failed" ++ reason ++ "\n" ++ s

def readPattern (s : String) : Except String Regex :=
  let text := String.ofList (plainPattern (s.length + 1) false s.toList)
  (Regex.read true false text).map (·.1)

end FlashImage.Shell.Records
