import FlashImage.Shell.Records.Machine
import FlashImage.Shell.Records.Reader

/-!
How scripts for records run.

The rules for the start come first, then each record is tried on all rules, and the rules for the
end come last. Records are only read if there is a rule for them or for the end.
-/

set_option autoImplicit false
set_option relaxedAutoImplicit false

namespace FlashImage.Shell.Records

def Sum.apply (kind : Sum) (x y : Float) : Float :=
  match kind with
  | .add => x + y
  | .subtract => x - y
  | .multiply => x * y
  | .divide => x / y
  | .remainder => remainderOf x y
  | .power => x.pow y
where
  remainderOf (x y : Float) : Float :=
    if x.isNaN || y.isNaN || x.isInf || y == 0 then 0.0 / 0.0
    else if y.isInf then x
    else
      let (a, b) := (fractionOf x, fractionOf y)
      let (n, d) := (a.numerator * b.denominator, b.numerator * a.denominator)
      let rest := n % d
      let unit := a.denominator * b.denominator
      let magnitude := Text.Binary64.ofFraction rest unit
      let r := if rest = 0 then 0.0
        else Float.scaleB magnitude.significand.toFloat magnitude.exponent
      if a.negative then -r else r

def Relation.holds (relation : Relation) (format : String) (v w : Value) : Bool :=
  let texts (f : Ordering → Bool) (s t : String) : Bool := f (compare s t)
  match relation with
  | .less => v.compare format w (· < ·) (texts (· == .lt))
  | .atMost => v.compare format w (· ≤ ·) (texts (· != .gt))
  | .equal => v.compare format w (· == ·) (· == ·)
  | .unequal => v.compare format w (· != ·) (· != ·)
  | .atLeast => v.compare format w (· ≥ ·) (texts (· != .lt))
  | .more => v.compare format w (· > ·) (texts (· == .gt))

/-- A place that something can be assigned to, with its keys. -/
inductive Spot
  | named (name : String)
  | field (n : Int)
  | element (table : Nat) (key : Value) (text : String)

namespace Run

/-- The value at a place. Looking at a key of a table makes it one. -/
def readSpot : Spot → Run Value
  | .named name => value name
  | .field n => field n
  | .element n key s => do
    let t ← table n
    match t.values[s]? with
    | some v =>
      setTable n (t.lookUp key s)
      return v
    | none =>
      setTable n (t.put key s .unset)
      return .unset

def writeSpot (spot : Spot) (v : Value) : Run Unit := do
  match spot with
  | .named name => setValue name v
  | .field n => setField n v
  | .element n key s => setTable n ((← table n).put key s v)

def keyOf (values : List Value) : Run (Value × String) := do
  match values with
  | [v] => return (v, ← text v)
  | values => do
    let separator ← textOf "SUBSEP"
    let s := separator.intercalate (← values.mapM text)
    return (.text s, s)

def patternOf (v : Value) : Run Regex := do
  let s ← text v
  match readPattern s with
  | .ok r => return r
  | .error wording => refuse (patternRefusal wording s)

def findIn (r : Regex) (s : String) : Option (Nat × Nat) :=
  (r.find? ⟨s.toList.toArray, false, false⟩ 0).map fun (i, spot) => (i, spot.position)

def replacement (found : List Char) : List Char → List Char
  | '\\' :: '&' :: rest => '&' :: replacement found rest
  | '\\' :: '\\' :: rest => '\\' :: replacement found rest
  | '&' :: rest => found ++ replacement found rest
  | c :: rest => c :: replacement found rest
  | [] => []

/-- Replaces what a pattern fits in a text, once or everywhere. The result has the number of places.
-/
def replaced (r : Regex) (all : Bool) (by1 s : String) : String × Nat :=
  let chars := s.toList.toArray
  let subject : Subject := ⟨chars, false, false⟩
  let rec go : (limit : Nat) → (position : Nat) → (last : Option Nat) → (done : List Char) →
      (count : Nat) → List Char × Nat
    | 0, _, _, done, n => (done, n)
    | limit + 1, position, last, done, n =>
      let rest : List Char := ((chars.extract position chars.size).toList.reverse ++ done)
      if !all && 0 < n then (rest, n)
      else
        match r.find? subject position with
        | none => (rest, n)
        | some (i, spot) =>
          let done := (chars.extract position i).toList.reverse ++ done
          let found := (chars.extract i spot.position).toList
          let isRepeated := spot.position = i && last = some i
          let new := if isRepeated then [] else replacement found by1.toList
          let done := new.reverse ++ done
          let n := if isRepeated then n else n + 1
          if spot.position = i then
            match chars[i]? with
            | none => (done, n)
            | some c => go limit (i + 1) none (c :: done) n
          else go limit spot.position (some spot.position) done n
  let (done, n) := go (2 * chars.size + 2) 0 none [] 0
  (String.ofList done.reverse, n)

/-- A part of a text, from a position that is counted from one on. -/
def partOf (s : String) (start : Int) (length? : Option Int) : String :=
  let chars := s.toList
  match length? with
  | none => String.ofList (chars.drop (start - 1).toNat)
  | some length =>
    let length := if start < 1 then length - start else length
    String.ofList ((chars.drop (start - 1).toNat).take length.toNat)

/-- The position at which a text has another one for the first time, counted from one on. -/
def indexOf (s t : List Char) : Nat :=
  match (List.range (s.length + 1)).find? fun i => t.isPrefixOf (s.drop i) with
  | some i => i + 1
  | none => 0

def numberFunctions : List (String × (Float → Float)) :=
  [("sin", Float.sin), ("cos", Float.cos), ("exp", Float.exp), ("log", Float.log),
    ("sqrt", Float.sqrt), ("int", fun x => if x < 0 then x.ceil else x.floor)]

/-- The value of a function that needs nothing but the values of its arguments. -/
def plainFunction (name : String) (arguments : List Value) : Run Value := do
  let first := arguments.headD .unset
  match numberFunctions.lookup name with
  | some f => return .number (f first.toNumber)
  | none =>
    match name, arguments with
    | "length", [] => return .number (← text (← get).record).length.toFloat
    | "length", _ => return .number (← text first).length.toFloat
    | "tolower", _ => return .text ((← text first).map Char.toLower)
    | "toupper", _ => return .text ((← text first).map Char.toUpper)
    | "substr", [s, start] =>
      return .text (partOf (← text s) (wholeOf start.toNumber) none)
    | "substr", [s, start, length] =>
      return .text
        (partOf (← text s) (wholeOf start.toNumber) (some (wholeOf length.toNumber)))
    | "index", [s, t] =>
      return .number (indexOf (← text s).toList (← text t).toList).toFloat
    | "atan2", [y, x] => return .number (Float.atan2 y.toNumber x.toNumber)
    | "sprintf", format :: values =>
      let shown ← Run.format
      let plain (v : Value) : String := v.toText shown
      let format ← text format
      match formatted plain (format.length + 1) format.toList values [] with
      | (s, true) => return .text s
      | (_, false) =>
        refuseAtRecord ("not enough arguments passed to sprintf(\"" ++ format ++ "\")")
    | "system", [command] =>
      flush
      return .number (← runCommand "sh" [] (← text command)).toFloat
    | "close", [name] =>
      let status ← close (← text name)
      return .number (if status < 0 then -1 else status.toNat.toFloat)
    | "fflush", _ =>
      flush
      return .number 0
    | "rand", _ => return .number 0.5
    | "srand", _ =>
      let m ← get
      set { m with seed := first }
      return m.seed
    | "systime", _ => return .number 0
    | name, _ => refuse ("wrong number of arguments in call to " ++ name)

/-- Puts what has been read into a place, or makes it the record. -/
def keepLine (spot : Option Spot) (line : String) : Run Unit := do
  match spot with
  | some spot => writeSpot spot (.outside line)
  | none => setRecord (.outside line)

/-- The value for something that has been read from a file or a command. -/
def keepRead (spot : Option Spot) (line? : Option (Option String)) : Run Value := do
  match line? with
  | none => return .number (-1)
  | some none => return .number 0
  | some (some line) =>
    keepLine spot line
    return .number 1

mutual

def spotOf : (depth : Nat) → Term → Run Spot
  | 0, _ => refuse "nesting is too deep"
  | _ + 1, .named name => return .named name
  | depth + 1, .field position => do
    return .field (wholeOf (← valueOf depth position).toNumber)
  | depth + 1, .element name keys => do
    let values ← keys.mapM (valueOf depth)
    let n ← tableNumber name
    let (key, s) ← keyOf values
    return .element n key s
  | depth + 1, .group [t] => spotOf depth t
  | _ + 1, _ => refuse "assignment to what is no place"

def valueOf : (depth : Nat) → Term → Run Value
  | 0, _ => refuse "nesting is too deep"
  | depth + 1, t => do
    let spot? (target : Option Term) : Run (Option Spot) :=
      match target with
      | some t => do return some (← spotOf depth t)
      | none => return none
    match t with
    | .number x => return .number x
    | .text s => return .text s
    | .pattern r => return .ofBool (findIn r (← text (← get).record)).isSome
    | .named _ => readSpot (← spotOf depth t)
    | .field _ => readSpot (← spotOf depth t)
    | .element _ _ => readSpot (← spotOf depth t)
    | .group parts =>
      match parts with
      | [one] => valueOf depth one
      | _ => refuse "a list is no value"
    | .assigned sum target new =>
      match sum with
      | none =>
        let v ← valueOf depth new
        let spot ← spotOf depth target
        writeSpot spot v
        return v
      | some sum =>
        let spot ← spotOf depth target
        let y := (← valueOf depth new).toNumber
        let v := Value.number (sum.apply (← readSpot spot).toNumber y)
        writeSpot spot v
        return v
    | .stepped isBefore sum target =>
      let spot ← spotOf depth target
      let x := (← readSpot spot).toNumber
      let y := sum.apply x 1
      writeSpot spot (.number y)
      return .number (if isBefore then y else x)
    | .chosen condition first second =>
      if (← valueOf depth condition).holds then valueOf depth first else valueOf depth second
    | .either first second =>
      if (← valueOf depth first).holds then return .ofBool true
      else return .ofBool (← valueOf depth second).holds
    | .both first second =>
      if (← valueOf depth first).holds then return .ofBool (← valueOf depth second).holds
      else return .ofBool false
    | .has keys name =>
      let values ← keys.mapM (valueOf depth)
      let n ← tableNumber name
      let (key, s) ← keyOf values
      let t ← table n
      setTable n (t.lookUp key s)
      return .ofBool (t.values.contains s)
    | .fits isWanted subject pattern =>
      let s ← text (← valueOf depth subject)
      let r ← match pattern with
        | .pattern r => pure r
        | p => patternOf (← valueOf depth p)
      return .ofBool ((findIn r s).isSome == isWanted)
    | .related relation first second =>
      let v ← valueOf depth first
      let w ← valueOf depth second
      return .ofBool (relation.holds (← format) v w)
    | .joined first second =>
      let s ← text (← valueOf depth first)
      return .text (s ++ (← text (← valueOf depth second)))
    | .sum kind first second =>
      let x := (← valueOf depth first).toNumber
      return .number (kind.apply x (← valueOf depth second).toNumber)
    | .not part => return .ofBool (!(← valueOf depth part).holds)
    | .negated part => return .number (-(← valueOf depth part).toNumber)
    | .plain part => return .number (← valueOf depth part).toNumber
    | .called name arguments => callFunction depth name arguments
    | .built name arguments => builtFunction depth name arguments
    | .nextLine target =>
      let spot ← spot? target
      match ← readRecord? ((← get).nextArgument + 10000) with
      | none => return .number 0
      | some line =>
        keepLine spot line
        return .number 1
    | .lineOf path target =>
      let path ← text (← valueOf depth path)
      let spot ← spot? target
      keepRead spot (← readFrom? path (loadFile path))
    | .lineFrom command target =>
      let command ← text (← valueOf depth command)
      let spot ← spot? target
      keepRead spot (← readFrom? command (loadCommand command))

/-- Runs a function of the script. Tables are handed over as such, and all else as values. -/
def callFunction : (depth : Nat) → (name : String) → List Term → Run Value
  | 0, _, _ => refuse "nesting is too deep"
  | depth + 1, name, arguments => do
    match (← get).script.functions.find? (·.name = name) with
    | none => refuse ("function " ++ name ++ " never defined")
    | some f =>
      if f.parameters.length < arguments.length then
        refuse ("too many arguments in call to " ++ name)
      let given ← arguments.mapM fun t => do
        match t with
        | .named name =>
          match ← meaning? name with
          | some (.value .unset) | none => return (some name, Meaning.free (← addTable .empty))
          | some meaning => return (some name, meaning)
        | t => return (none, Meaning.value (← valueOf depth t))
      let missing := f.parameters.drop given.length
      let fresh ← missing.mapM fun name => do
        return (name, Meaning.free (← addTable .empty))
      let frame := (f.parameters.zip (given.map (·.2))) ++ fresh
      modify fun m => { m with frames := frame :: m.frames }
      let result ← fun m =>
        match perform depth f.body m with
        | (.ok (), m) => (.ok (Except.ok Value.unset), m)
        | (.error (.return v), m) => (.ok (.ok v), m)
        | (.error halt, m) => (.ok (.error halt), m)
      let after := (← get).frames.headD []
      modify fun m => { m with frames := m.frames.tail }
      (f.parameters.zip given).forM fun (parameter, source, before) => do
        match source, before, after.lookup parameter with
        | some name, .free _, some (.table n) => setMeaning name (.table n)
        | _, _, _ => return ()
      match result with
      | .ok v => return v
      | .error halt => throw halt

def builtFunction : (depth : Nat) → (name : String) → List Term → Run Value
  | 0, _, _ => refuse "nesting is too deep"
  | depth + 1, name, arguments => do
    let pattern (t : Term) : Run Regex := do
      match t with
      | .pattern r => return r
      | t => patternOf (← valueOf depth t)
    match name, arguments with
    | "length", [.named table] =>
      match ← meaning? table with
      | some (.table n) => return .number (← Run.table n).values.size.toFloat
      | some (.value v) => plainFunction "length" [v]
      | _ => plainFunction "length" [← value table]
    | "split", source :: .named name :: rest =>
      let s ← text (← valueOf depth source)
      let parts ← match rest with
        | [] => splitText (← textOf "FS") s
        | .pattern r :: _ => pure (if s.isEmpty then [] else splitAtPattern r s)
        | t :: _ => splitText (← text (← valueOf depth t)) s
      setTable (← tableNumber name) (.ofTexts parts)
      return .number parts.length.toFloat
    | "match", [subject, t] =>
      let s ← text (← valueOf depth subject)
      let found := findIn (← pattern t) s
      let start := (found.map (·.1 + 1)).getD 0
      setPlain "RSTART" (.number start.toFloat)
      setPlain "RLENGTH" (.number ((found.map fun (i, j) => (j - i).toFloat).getD (-1)))
      return .number start.toFloat
    | "sub", t :: by1 :: rest => substitute depth false (← pattern t) by1 rest
    | "gsub", t :: by1 :: rest => substitute depth true (← pattern t) by1 rest
    | name, arguments => plainFunction name (← arguments.mapM (valueOf depth))

/-- Replaces what a pattern fits at a place, which is the record unless another one is given. -/
def substitute : (depth : Nat) → (all : Bool) → Regex → Term → List Term → Run Value
  | 0, _, _, _, _ => refuse "nesting is too deep"
  | depth + 1, all, r, by1, rest => do
    let by1 ← text (← valueOf depth by1)
    let target := rest.headD (.field (.number 0))
    let (before, spot?) ← match target with
      | .named _ | .field _ | .element _ _ => do
        let spot ← spotOf depth target
        pure (← readSpot spot, some spot)
      | t => do pure (← valueOf depth t, none)
    let (after, n) := replaced r all by1 (← text before)
    match spot? with
    | some spot => if 0 < n then writeSpot spot (.text after)
    | none => pure ()
    return .number n.toFloat

def perform : (depth : Nat) → Step → Run Unit
  | 0, _ => refuse "nesting is too deep"
  | depth + 1, step => do
    let send (outlet : Option (OutletKind × Term)) (s : String) : Run Unit := do
      match outlet with
      | none => print s
      | some (kind, target) => printTo kind (← text (← valueOf depth target)) s
    let inLoop (body : Run Unit) : Run Bool := fun m =>
      match body m with
      | (.ok (), m) => (.ok true, m)
      | (.error .again, m) => (.ok true, m)
      | (.error .leave, m) => (.ok false, m)
      | (.error halt, m) => (.error halt, m)
    let statusOf (t : Option Term) : Run Unit := do
      match t with
      | some t =>
        let n := wholeOf (← valueOf depth t).toNumber
        modify fun m => { m with status := (n % 256).toNat }
      | none => return ()
    match step with
    | .term t =>
      let _ ← valueOf depth t
    | .print values outlet =>
      let values ← values.mapM (valueOf depth)
      let shown ← textOf "OFMT"
      let s ← match values with
        | [] => text (← get).record
        | values => do pure ((← textOf "OFS").intercalate (values.map (Value.toText shown)))
      send outlet (s ++ (← textOf "ORS"))
    | .printFormat values outlet =>
      match ← values.mapM (valueOf depth) with
      | [] => return ()
      | pattern :: values =>
        let shown ← format
        let pattern ← text pattern
        let (s, isAll) :=
          formatted (Value.toText shown) (pattern.length + 1) pattern.toList values []
        send outlet s
        if !isAll then
          refuseAtRecord ("not enough arguments passed to printf(\"" ++ pattern ++ "\")")
    | .choice condition first second =>
      if (← valueOf depth condition).holds then perform depth first else perform depth second
    | .loop condition after body =>
      iterate (do
        if !(← valueOf depth condition).holds then return some ()
        if ← inLoop (perform depth body) then
          perform depth after
          return none
        else return some ()) stepLimit
    | .loopBehind body condition =>
      iterate (do
        if !(← inLoop (perform depth body)) then return some ()
        if (← valueOf depth condition).holds then return none else return some ()) stepLimit
    | .each name source body =>
      let n ← tableNumber source
      let t := (← table n).named
      setTable n t
      let goesOn ← t.keys.foldlM (fun (goesOn : Bool) key => do
        if !goesOn then return false
        setValue name (.text key)
        inLoop (perform depth body)) true
      if !goesOn then return ()
    | .block steps => steps.forM (perform depth)
    | .next => throw .next
    | .nextFile => throw .nextFile
    | .exit t =>
      statusOf t
      throw .exit
    | .return t =>
      match t with
      | some t => throw (.return (← valueOf depth t))
      | none => throw (.return .unset)
    | .leave => throw .leave
    | .again => throw .again
    | .erase name keys =>
      let n ← tableNumber name
      if keys.isEmpty then setTable n .empty
      else
        let values ← keys.mapM (valueOf depth)
        let (_, s) ← keyOf values
        setTable n ((← table n).erase s)

end

def runDepth : Nat := 20000

def isFor (s : Selector) : Run Bool := do
  match s with
  | .start => return false
  | .finish => return false
  | .all => return true
  | .term t => return (← valueOf runDepth t).holds
  | .range n first last =>
    let isOpen := (← get).openRanges.contains n
    let isOpen ← if isOpen then pure true else do pure (← valueOf runDepth first).holds
    if !isOpen then return false
    let isLast := (← valueOf runDepth last).holds
    modify fun m =>
      let others := m.openRanges.filter (· ≠ n)
      { m with openRanges := if isLast then others else n :: others }
    return true

def runRules (rules : List Rule) : Run Unit := rules.forM fun rule => do
  if ← isFor rule.selector then perform runDepth rule.body

def runRecords (rules : List Rule) : Run Unit :=
  iterate (do
    match ← readRecord? ((← get).nextArgument + 10000) with
    | none => return some ()
    | some line =>
      setRecord (.outside line)
      fun m =>
        match runRules rules m with
        | (.ok (), m) => (.ok none, m)
        | (.error .next, m) => (.ok none, m)
        | (.error .nextFile, m) => (.ok none, { m with input := none })
        | (.error halt, m) => (.error halt, m)) stepLimit

/-- Takes a step that may end what comes before the rules for the end. The result says whether those
are still to be run. -/
def untilExit (step : Run Unit) : Run Bool := fun m =>
  match step m with
  | (.ok (), m) => (.ok true, m)
  | (.error .exit, m) => (.ok false, m)
  | (.error halt, m) => (.error halt, m)

def runScript : Run Unit := do
  let rules := (← get).script.rules
  let chosen (f : Selector → Bool) : List Step :=
    (rules.filter fun r => f r.selector).map (·.body)
  let starts := chosen fun s =>
    match s with
    | .start => true
    | _ => false
  let finishes := chosen fun s =>
    match s with
    | .finish => true
    | _ => false
  let others := rules.length - starts.length - finishes.length
  let goesOn ← untilExit do
    starts.forM (perform runDepth)
    if 0 < others || !finishes.isEmpty then runRecords rules
  let _ ← if goesOn || 0 < finishes.length then untilExit (finishes.forM (perform runDepth))
    else pure true
  closeAll ((← get).outlets.length + 1)
  flush

end Run

def startNames : List (String × Meaning) :=
  let number (x : Float) : Meaning := .value (.number x)
  let text (s : String) : Meaning := .value (.text s)
  [("CONVFMT", text "%.6g"), ("OFMT", text "%.6g"), ("FS", text " "), ("OFS", text " "),
    ("ORS", text "\n"), ("RS", text "\n"), ("SUBSEP", text "\x1c"), ("FILENAME", text ""),
    ("NR", number 0), ("FNR", number 0), ("NF", number 0), ("RSTART", number 0),
    ("RLENGTH", number (-1))]

/-- What the arguments of the program say. -/
structure ScriptArguments where
  separator : Option String
  assignments : List (String × String)
  scripts : List String
  operands : List String

def readScriptArguments : (limit : Nat) → List String → ScriptArguments → Program ScriptArguments
  | 0, _, a => return a
  | _, [], a => return a
  | limit + 1, word :: rest, a => do
    let valued (text : List Char) (use : String → List String → Program ScriptArguments) :
        Program ScriptArguments := do
      match text, rest with
      | [], value :: rest => use value rest
      | [], [] =>
        Program.complain ("option requires an argument -- " ++ String.ofList (word.toList.drop 1))
        Program.finish Run.failure
      | text, rest => use (String.ofList text) rest
    match word.toList with
    | ['-', '-'] => return { a with operands := rest }
    | '-' :: 'F' :: text =>
      valued text fun value rest => readScriptArguments limit rest { a with separator := some value }
    | '-' :: 'v' :: text =>
      valued text fun value rest => do
        match Run.assignment? value with
        | some assigned =>
          readScriptArguments limit rest { a with assignments := a.assignments ++ [assigned] }
        | none =>
          Program.complain ("improper assignment: -v " ++ value)
          Program.finish Run.failure
    | '-' :: 'f' :: text =>
      valued text fun value rest =>
        readScriptArguments limit rest { a with scripts := a.scripts ++ [value] }
    | '-' :: 'W' :: text =>
      valued text fun _ rest => readScriptArguments limit rest a
    | '-' :: _ :: _ =>
      Program.complain ("not an option: " ++ word)
      Program.finish Run.failure
    | _ => return { a with operands := word :: rest }

def runOnRecords (start : Starter) (arguments : List String) : Program Unit := do
  let a ← readScriptArguments (arguments.length + 1) arguments ⟨none, [], [], []⟩
  let (source, operands) ←
    if a.scripts.isEmpty then
      match a.operands with
      | [] =>
        Program.printTo 2 (ByteText.toBytes "Usage: mawk [Options] [Program] [file ...]\n")
        Program.finish 0
      | source :: operands => pure (source, operands)
    else do
      let parts ← a.scripts.mapM fun path => do
        match ← readOperand? path with
        | .ok b => return ByteText.ofBytes b
        | .error fault =>
          Program.complain ("cannot open \"" ++ path ++ "\" (" ++ faultWording fault ++ ")")
          Program.finish Run.failure
      pure ("\n".intercalate parts, a.operands)
  match readScript source with
  | .error fault =>
    Program.complain ("line " ++ toString fault.line ++ ": " ++ fault.wording)
    Program.finish Run.failure
  | .ok script =>
    let p ← get
    let values (all : List (String × String)) : Table :=
      all.foldl (fun t (name, s) => t.put (.text name) name (.outside s)) .empty
    let words := (p.speaker :: operands).zipIdx.map fun (s, i) => (toString i, s)
    let separator := (a.separator.map fun s =>
      String.ofList (unescaped (s.length + 1) s.toList)).getD " "
    let names := ("FS", Meaning.value (.text separator)) ::
      startNames.filter (·.1 ≠ "FS") ++
      [("ARGC", .value (.number words.length.toFloat)), ("ENVIRON", .table 0), ("ARGV", .table 1)]
    let m : Machine :=
      { process := p, starter := start, script := script, names := names, frames := [],
        tables := #[values p.environment, values words], record := .unset, fields := #[],
        openRanges := [], input := none, nextArgument := 1, hasRead := false, readers := [],
        outlets := [], printed := [], printedSize := 0, status := 0, seed := .number 0 }
    let run : Run Unit := do
      a.assignments.forM fun (name, s) => Run.assignArgument name s
      Run.runScript
    let (result, m) := run m
    set m.process
    match result with
    | .error (.ended (.status n)) =>
      if !m.printed.isEmpty then Program.printText (String.join m.printed.reverse)
      Program.finish n
    | .error (.ended exit) => throw exit
    | _ => Program.setStatus m.status

end FlashImage.Shell.Records
