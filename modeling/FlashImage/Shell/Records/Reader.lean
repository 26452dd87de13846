import FlashImage.Shell.Records.Lexeme
import FlashImage.Shell.Records.Script

/-!
How scripts for records are read.

A term is read level by level: each level has signs that bind more than those of the level before.
Behind a place a sign of assignment is taken at once, so that such a term may stand on the right of
any sign.
-/

set_option autoImplicit false
set_option relaxedAutoImplicit false

namespace FlashImage.Shell.Records

/-- What is still to be read. -/
structure ScriptReader where
  lexemes : List (Nat × Lexeme)
  line : Nat
  /-- The number of rules for ranges so far. -/
  ranges : Nat
  /-- The words of steps that may stand here, of those that may not stand everywhere. -/
  allowed : List String
  /-- The functions that are called. -/
  calls : List String

abbrev ReadScript := StateT ScriptReader (Except ScriptFault)

namespace ReadScript

def peek : ReadScript (Option Lexeme) := do return ((← get).lexemes.head?).map (·.2)

def skip : ReadScript Unit := modify fun r =>
  match r.lexemes with
  | (line, _) :: rest => { r with lexemes := rest, line := line }
  | [] => r

def shown : Lexeme → String
  | .number x => numberText "%.6g" x
  | .text s => s
  | .pattern s => "/" ++ s ++ "/"
  | .word s => s
  | .call s => s
  | .sign s => s
  | .lineBreak => "end of line"

def refuse {α : Type} : ReadScript α := do
  let r ← get
  match r.lexemes with
  | (line, lexeme) :: _ => throw ⟨line, "syntax error at or near " ++ shown lexeme⟩
  | [] => throw ⟨r.line, "unexpected end of script"⟩

def isSign (s : String) : ReadScript Bool := do
  match ← peek with
  | some (.sign t) => return s = t
  | _ => return false

def isWord (s : String) : ReadScript Bool := do
  match ← peek with
  | some (.word t) => return s = t
  | _ => return false

def takeSign (s : String) : ReadScript Bool := do
  if ← isSign s then
    skip
    return true
  else return false

def takeWord (s : String) : ReadScript Bool := do
  if ← isWord s then
    skip
    return true
  else return false

def needSign (s : String) : ReadScript Unit := do
  if !(← takeSign s) then refuse

def needName : ReadScript String := do
  match ← peek with
  | some (.word s) =>
    if reservedWords.contains s || builtNames.contains s then refuse
    skip
    return s
  | _ => refuse

def skipBreaks : ReadScript Unit := modify fun r =>
  { r with lexemes := r.lexemes.dropWhile fun (_, lexeme) =>
      match lexeme with
      | .lineBreak => true
      | _ => false }

def skipEnds : ReadScript Unit := modify fun r =>
  { r with lexemes := r.lexemes.dropWhile fun (_, lexeme) =>
      match lexeme with
      | .lineBreak => true
      | .sign ";" => true
      | _ => false }

/-- Goes on with what has been read as long as there is more of it, so many times at most. -/
def extend {α : Type} (more : α → ReadScript (Option α)) : (limit : Nat) → α → ReadScript α
  | 0, a => return a
  | limit + 1, a => do
    match ← more a with
    | some b => extend more limit b
    | none => return a

/-- Where a term stands. -/
structure Place where
  /-- Whether the sign for more stands behind the term and not in it. -/
  isPrinted : Bool
  /-- Whether the word for keys stands behind the term and not in it. -/
  isCounted : Bool

def Place.free : Place := ⟨false, false⟩

def assignments : List (String × Option Sum) :=
  [("=", none), ("+=", some .add), ("-=", some .subtract), ("*=", some .multiply),
    ("/=", some .divide), ("%=", some .remainder), ("^=", some .power)]

def relations : List (String × Relation) :=
  [("<", .less), ("<=", .atMost), ("==", .equal), ("!=", .unequal), (">=", .atLeast), (">", .more)]

/-- Whether a term may start with a lexeme that follows another term. -/
def startsJoined : Lexeme → Bool
  | .number _ => true
  | .text _ => true
  | .pattern _ => true
  | .word s => !reservedWords.contains s
  | .call _ => true
  | .sign s => ["$", "(", "!", "-", "+", "++", "--"].contains s
  | .lineBreak => false

def leafLevel : Nat := 12

def separated (one : ReadScript Term) (limit : Nat) : ReadScript (List Term) := do
  let first ← one
  let all ← extend (fun (all : List Term) => do
    if ← takeSign "," then
      skipBreaks
      return some ((← one) :: all)
    else return none) limit [first]
  return all.reverse

/-- Reads the arguments of a function behind the bracket in front of them. -/
def arguments (one : ReadScript Term) (limit : Nat) : ReadScript (List Term) := do
  skipBreaks
  if ← takeSign ")" then return []
  let all ← separated one limit
  skipBreaks
  needSign ")"
  return all

def term (isAssignable : Bool) : (depth : Nat) → (level : Nat) → Place → ReadScript Term
  | 0, _, _ => refuse
  | depth + 1, level, place => do
    let at1 (level : Nat) (place : Place) : ReadScript Term := term true depth level place
    let next : ReadScript Term := term isAssignable depth (level + 1) place
    let operand : ReadScript Term := at1 (level + 1) place
    let chain (more : Term → ReadScript (Option Term)) : ReadScript Term := do
      extend more depth (← next)
    match level with
    | 0 =>
      let condition ← next
      if ← takeSign "?" then
        skipBreaks
        let first ← at1 0 place
        skipBreaks
        needSign ":"
        skipBreaks
        return .chosen condition first (← at1 0 place)
      else return condition
    | 1 => chain fun a => do
      if ← takeSign "||" then
        skipBreaks
        return some (.either a (← operand))
      else return none
    | 2 => chain fun a => do
      if ← takeSign "&&" then
        skipBreaks
        return some (.both a (← operand))
      else return none
    | 3 => chain fun a => do
      if place.isCounted then return none
      if ← takeWord "in" then
        let keys := match a with
          | .group parts => parts
          | a => [a]
        return some (.has keys (← needName))
      else return none
    | 4 => chain fun a => do
      if ← takeSign "~" then return some (.fits true a (← operand))
      else if ← takeSign "!~" then return some (.fits false a (← operand))
      else return none
    | 5 => chain fun a => do
      match ← peek with
      | some (.sign s) =>
        match relations.lookup s with
        | some relation =>
          if s = ">" && place.isPrinted then return none
          skip
          return some (.related relation a (← operand))
        | none => return none
      | _ => return none
    | 6 => chain fun a => do
      match ← peek with
      | some lexeme =>
        if startsJoined lexeme then
          match lexeme with
          | .sign s => if s = "!" || s = "-" || s = "+" then return none
          | _ => pure ()
          return some (.joined a (← operand))
        else return none
      | none => return none
    | 7 => chain fun a => do
      if ← takeSign "+" then return some (.sum .add a (← operand))
      else if ← takeSign "-" then return some (.sum .subtract a (← operand))
      else return none
    | 8 => chain fun a => do
      if ← takeSign "*" then return some (.sum .multiply a (← operand))
      else if ← takeSign "/" then return some (.sum .divide a (← operand))
      else if ← takeSign "%" then return some (.sum .remainder a (← operand))
      else return none
    | 9 =>
      if ← takeSign "!" then return .not (← at1 9 place)
      else if ← takeSign "-" then return .negated (← at1 9 place)
      else if ← takeSign "+" then return .plain (← at1 9 place)
      else next
    | 10 =>
      let base ← next
      if ← takeSign "^" then
        match ← peek with
        | some (.sign s) =>
          if s = "-" || s = "+" || s = "!" then return .sum .power base (← at1 9 place)
          else return .sum .power base (← at1 10 place)
        | _ => return .sum .power base (← at1 10 place)
      else return base
    | 11 =>
      let step (sum : Sum) : ReadScript Term := do
        let target ← term false depth leafLevel place
        if !target.isPlace then refuse
        return .stepped true sum target
      if ← takeSign "++" then step .add
      else if ← takeSign "--" then step .subtract
      else
        let a ← next
        let a ←
          if !a.isPlace then pure a
          else if ← takeSign "++" then pure (.stepped false .add a)
          else if ← takeSign "--" then pure (.stepped false .subtract a)
          else
            match ← peek with
            | some (.sign s) =>
              match assignments.lookup s, isAssignable with
              | some sum, true =>
                skip
                skipBreaks
                pure (.assigned sum a (← at1 0 place))
              | _, _ => pure a
            | _ => pure a
        extend (fun a => do
          match (← get).lexemes with
          | (_, .sign "|") :: (_, .word "getline") :: _ =>
            skip
            skip
            return some (.lineFrom a (← lineTarget depth))
          | _ => return none) depth a
    | _ =>
      match ← peek with
      | none => refuse
      | some lexeme =>
        let limit := (← get).lexemes.length + 1
        match lexeme with
        | .number x =>
          skip
          return .number x
        | .text s =>
          skip
          return .text s
        | .pattern s =>
          skip
          match readPattern s with
          | .ok r => return .pattern r
          | .error wording => throw ⟨(← get).line, patternRefusal wording s⟩
        | .sign "$" =>
          skip
          if ← takeSign "-" then return .field (.negated (← term false depth leafLevel place))
          if ← takeSign "++" then
            return .field (.stepped true .add (← term false depth leafLevel place))
          if ← takeSign "--" then
            return .field (.stepped true .subtract (← term false depth leafLevel place))
          let position ← term false depth leafLevel place
          match position with
          | .named "NF" =>
            if ← takeSign "++" then return .field (.stepped false .add position)
            else if ← takeSign "--" then return .field (.stepped false .subtract position)
            else return .field position
          | position => return .field position
        | .sign "(" =>
          skip
          skipBreaks
          let parts ← separated (at1 0 .free) limit
          skipBreaks
          needSign ")"
          match parts with
          | [one] => return .group [one]
          | parts =>
            if !(← isWord "in") then refuse
            return .group parts
        | .call name =>
          skip
          needSign "("
          modify fun r => { r with calls := name :: r.calls }
          return .called name (← arguments (at1 0 .free) limit)
        | .word "getline" =>
          skip
          let target ← lineTarget depth
          if ← takeSign "<" then return .lineOf (← term false depth 11 place) target
          else return .nextLine target
        | .word name =>
          if reservedWords.contains name then refuse
          skip
          if builtNames.contains name then
            if ← takeSign "(" then return .built name (← arguments (at1 0 .free) limit)
            else if name = "length" then return .built name []
            else refuse
          else if ← takeSign "[" then
            let keys ← separated (at1 0 .free) limit
            needSign "]"
            return .element name keys
          else return .named name
        | _ => refuse
where
  lineTarget (depth : Nat) : ReadScript (Option Term) := do
    match ← peek with
    | some (.sign "$") => return some (← term false depth leafLevel .free)
    | some (.word name) =>
      if reservedWords.contains name || builtNames.contains name then return none
      else return some (← term false depth leafLevel .free)
    | _ => return none

def stepEnd : ReadScript Unit := do
  match ← peek with
  | none => return ()
  | some .lineBreak => skipEnds
  | some (.sign ";") => skipEnds
  | some (.sign "\x7d") => return ()
  | some _ => refuse

def isOver : ReadScript Bool := do
  match ← peek with
  | none => return true
  | some .lineBreak => return true
  | some (.sign s) => return [";", "\x7d", ">", ">>", "|"].contains s
  | some _ => return false

def outlet (depth : Nat) : ReadScript (Option (OutletKind × Term)) := do
  let target : ReadScript Term := term true depth 0 ⟨true, false⟩
  if ← takeSign ">" then return some (.file, ← target)
  else if ← takeSign ">>" then return some (.fileEnd, ← target)
  else if ← takeSign "|" then return some (.command, ← target)
  else return none

def printed (depth : Nat) : ReadScript (List Term) := do
  if ← isOver then return []
  let before ← get
  let limit := before.lexemes.length + 1
  if ← takeSign "(" then
    skipBreaks
    let inBrackets : ReadScript (List Term) := do
      let parts ← separated (term true depth 0 .free) limit
      skipBreaks
      needSign ")"
      if ← isOver then return parts else refuse
    match inBrackets (← get) with
    | .ok (parts, after) =>
      set after
      return parts
    | .error _ => set before
  separated (term true depth 0 ⟨true, false⟩) limit

def checkAllowed (word : String) : ReadScript Unit := do
  let r ← get
  if !r.allowed.contains word then
    let wording :=
      if word = "return" then "return outside function body"
      else if word = "break" || word = "continue" then word ++ " statement outside of loop"
      else "improper use of " ++ word
    throw ⟨r.line, wording⟩

def allowing {α : Type} (words : List String) (read : ReadScript α) : ReadScript α := do
  let before := (← get).allowed
  modify fun r => { r with allowed := words ++ before }
  let a ← read
  modify fun r => { r with allowed := before }
  return a

def simpleStep (depth : Nat) : ReadScript Step := do
  let whole : ReadScript Term := term true depth 0 .free
  let optional : ReadScript (Option Term) := do
    if ← isOver then return none else return some (← whole)
  match ← peek with
  | some (.word "print") =>
    skip
    let values ← printed depth
    return .print values (← outlet depth)
  | some (.word "printf") =>
    skip
    let values ← printed depth
    if values.isEmpty then refuse
    return .printFormat values (← outlet depth)
  | some (.word "next") =>
    skip
    checkAllowed "next"
    return .next
  | some (.word "nextfile") =>
    skip
    checkAllowed "nextfile"
    return .nextFile
  | some (.word "break") =>
    skip
    checkAllowed "break"
    return .leave
  | some (.word "continue") =>
    skip
    checkAllowed "continue"
    return .again
  | some (.word "exit") =>
    skip
    return .exit (← optional)
  | some (.word "return") =>
    skip
    checkAllowed "return"
    return .return (← optional)
  | some (.word "delete") =>
    skip
    let name ← needName
    if ← takeSign "[" then
      let keys ← separated whole depth
      needSign "]"
      return .erase name keys
    else return .erase name []
  | _ => return .term (← whole)

def step (termDepth : Nat) : (depth : Nat) → ReadScript Step
  | 0 => refuse
  | depth + 1 => do
    let whole : ReadScript Term := term true termDepth 0 .free
    let body : ReadScript Step := do
      skipBreaks
      step termDepth depth
    let loopBody : ReadScript Step := allowing ["break", "continue"] body
    let emptyOr (read : ReadScript Step) : ReadScript Step := do
      if ← isSign ";" then return .block [] else read
    match ← peek with
    | some (.sign "\x7b") =>
      skip
      skipEnds
      let limit := (← get).lexemes.length + 1
      let steps ← extend (fun (steps : List Step) => do
        if ← takeSign "\x7d" then return none
        if (← peek).isNone then
          throw ⟨(← get).line + 1, "missing \x7d near end of file"⟩
        let one ← step termDepth depth
        skipEnds
        return some (one :: steps)) limit []
      return .block steps.reverse
    | some (.sign ";") =>
      skip
      return .block []
    | some (.word "if") =>
      skip
      needSign "("
      let condition ← whole
      needSign ")"
      let first ← body
      let before ← get
      skipEnds
      if ← takeWord "else" then return .choice condition first (← body)
      else
        set before
        return .choice condition first (.block [])
    | some (.word "while") =>
      skip
      needSign "("
      let condition ← whole
      needSign ")"
      return .loop condition (.block []) (← loopBody)
    | some (.word "do") =>
      skip
      let inner ← loopBody
      skipEnds
      if !(← takeWord "while") then refuse
      needSign "("
      let condition ← whole
      needSign ")"
      stepEnd
      return .loopBehind inner condition
    | some (.word "for") =>
      skip
      needSign "("
      match (← get).lexemes with
      | (_, .word name) :: (_, .word "in") :: (_, .word table) :: (_, .sign ")") :: _ =>
        skip
        skip
        skip
        skip
        return .each name table (← loopBody)
      | _ =>
        let first ← emptyOr (simpleStep termDepth)
        needSign ";"
        skipBreaks
        let condition ← if ← isSign ";" then pure (.number 1) else whole
        needSign ";"
        skipBreaks
        let after ← if ← isSign ")" then pure (.block []) else simpleStep termDepth
        needSign ")"
        return .block [first, .loop condition after (← loopBody)]
    | _ =>
      let one ← simpleStep termDepth
      stepEnd
      return one

/-- Reads the parameters of a function behind the bracket in front of them. -/
def parameters (limit : Nat) : ReadScript (List String) := do
  skipBreaks
  if ← takeSign ")" then return []
  let first ← needName
  let all ← extend (fun (all : List String) => do
    if ← takeSign "," then
      skipBreaks
      return some ((← needName) :: all)
    else return none) limit [first]
  skipBreaks
  needSign ")"
  return all.reverse

/-- Reads the body of a rule. A rule without one prints the record. -/
def ruleBody (depth : Nat) : ReadScript Step := do
  if ← isSign "\x7b" then allowing ["next", "nextfile"] (step depth depth)
  else return .print [] none

def part (depth : Nat) (script : Script) : ReadScript Script := do
  let add (selector : Selector) (body : Step) : Script :=
    { script with rules := ⟨selector, body⟩ :: script.rules }
  let needBody : ReadScript Step := do
    if ← isSign "\x7b" then step depth depth else refuse
  match ← peek with
  | some (.word "BEGIN") =>
    skip
    return add .start (← needBody)
  | some (.word "END") =>
    skip
    return add .finish (← needBody)
  | some (.sign "\x7b") => return add .all (← ruleBody depth)
  | some (.word word) =>
    if word = "function" then
      skip
      let name ← match ← peek with
        | some (.call name) =>
          skip
          pure name
        | _ => needName
      needSign "("
      let names ← parameters depth
      skipBreaks
      let body ← allowing ["next", "nextfile", "return"] needBody
      return { script with functions := ⟨name, names, body⟩ :: script.functions }
    else rule add
  | _ => rule add
where
  rule (add : Selector → Step → Script) : ReadScript Script := do
    let first ← term true depth 0 .free
    if ← takeSign "," then
      skipBreaks
      let last ← term true depth 0 .free
      let number := (← get).ranges
      modify fun r => { r with ranges := number + 1 }
      return add (.range number first last) (← ruleBody depth)
    else return add (.term first) (← ruleBody depth)

def whole (depth : Nat) : ReadScript Script := do
  skipEnds
  let script ← extend (fun script => do
    if (← peek).isNone then return none
    let script ← part depth script
    skipEnds
    return some script) depth ⟨[], []⟩
  let r ← get
  match r.calls.reverse.find? fun name => !script.functions.any (·.name = name) with
  | some name => throw ⟨r.line + 1, "function " ++ name ++ " never defined"⟩
  | none => pure ()
  return ⟨script.rules.reverse, script.functions.reverse⟩

end ReadScript

def readScript (s : String) : Except ScriptFault Script := do
  let lexemes ← lexemesOf (s.length + 1) 1 true s.toList
  let depth := 20 * lexemes.length + 100
  let (script, _) ← (ReadScript.whole depth).run ⟨lexemes, 1, 0, [], []⟩
  return script

end FlashImage.Shell.Records
