import FlashImage.Shell.Pattern
import FlashImage.Shell.Utility.Listing

/-!
The search for files and directories that meet a condition.

A condition is made of tests and of actions, which are joined by signs. What stands on the right of
a sign is only looked at if the result hangs on it. A condition without an action prints what meets
it.
-/

set_option autoImplicit false
set_option relaxedAutoImplicit false

namespace FlashImage.Shell

/-- How a number is compared with the one that is asked for. -/
inductive Comparison
  | less
  | equal
  | greater
  deriving DecidableEq, Repr

def Comparison.holds : Comparison → Nat → Nat → Bool
  | .less, m, n => m < n
  | .equal, m, n => m = n
  | .greater, m, n => n < m

/-- A condition on files and directories. -/
inductive Search
  | always (holds : Bool)
  | name (ignoresCase : Bool) (pattern : Pattern)
  | path (ignoresCase : Bool) (pattern : Pattern)
  | kind (letters : List Char)
  /-- Leads to something of a kind. -/
  | farKind (letters : List Char)
  /-- Is a link with a text that the pattern fits. -/
  | linkText (ignoresCase : Bool) (pattern : Pattern)
  | links (comparison : Comparison) (count : Nat)
  /-- Is at this location too. -/
  | sameAs (l : Location)
  | size (comparison : Comparison) (count unit : Nat)
  | empty
  /-- Has just these permissions, at least these, or one of these. -/
  | permission (kind : Char) (mode : Nat)
  | isExecutable
  | print (ending : String)
  | printFormat (format : String)
  | exec (command : List String)
  /-- Takes what is found as arguments of one command. -/
  | collect (number : Nat) (command : List String)
  | delete
  | prune
  | quit
  | not (part : Search)
  | and (first second : Search)
  | or (first second : Search)
  | both (first second : Search)

/-- The options of a search as a whole. -/
structure SearchOptions where
  least : Nat
  most : Option Nat
  isDepthFirst : Bool
  followsLinks : Bool

/-- Whether a condition has an action other than to leave out what is below. -/
def Search.acts : Search → Bool
  | .print _ => true
  | .printFormat _ => true
  | .exec _ => true
  | .collect _ _ => true
  | .delete => true
  | .not p => p.acts
  | .and p q => p.acts || q.acts
  | .or p q => p.acts || q.acts
  | .both p q => p.acts || q.acts
  | .quit => false
  | _ => false

def Search.collectors : Search → List (Nat × List String)
  | .collect n command => [(n, command)]
  | .not p => p.collectors
  | .and p q => p.collectors ++ q.collectors
  | .or p q => p.collectors ++ q.collectors
  | .both p q => p.collectors ++ q.collectors
  | _ => []

/-- What is still to be read of a condition, and what has been read of the options. -/
structure SearchReader where
  words : List String
  options : SearchOptions
  collectors : Nat

abbrev ReadSearch := StateT SearchReader Program

namespace ReadSearch

def refuse {α : Type} (wording : String) : ReadSearch α := StateT.lift (Program.refuse wording)

def peek : ReadSearch (Option String) := do return (← get).words.head?

def skip : ReadSearch Unit := modify fun r => { r with words := r.words.tail }

def argument (name : String) : ReadSearch String := do
  match (← get).words with
  | [] => refuse ("missing argument to `" ++ name ++ "'")
  | word :: rest =>
    modify fun r => { r with words := rest }
    return word

def pattern (ignoresCase : Bool) (name : String) : ReadSearch Pattern := do
  let text ← argument name
  let rec marked : List Char → List PatternChar
    | '\\' :: c :: rest => ⟨c, false⟩ :: marked rest
    | c :: rest => ⟨if ignoresCase then c.toLower else c, true⟩ :: marked rest
    | [] => []
  return Pattern.ofChars (marked text.toList)

/-- The comparison that a number stands for with the sign in front of it, and the number. -/
def compared (text : String) : Comparison × List Char :=
  match text.toList with
  | '+' :: rest => (.greater, rest)
  | '-' :: rest => (.less, rest)
  | rest => (.equal, rest)

def sizeUnits : List (Char × Nat) :=
  [('c', 1), ('w', 2), ('b', 512), ('k', 1024), ('M', 1048576), ('G', 1073741824)]

def size (name : String) : ReadSearch Search := do
  let text ← argument name
  let (comparison, chars) := compared text
  let digits := chars.takeWhile Char.isDigit
  let unit? := match chars.drop digits.length with
    | [] => some 512
    | [c] => sizeUnits.lookup c
    | _ => none
  match decimal? (String.ofList digits), unit? with
  | some n, some unit => return .size comparison n unit
  | _, _ => refuse ("invalid " ++ name ++ " type `" ++ text ++ "'")

def permission (name : String) : ReadSearch Search := do
  let text ← argument name
  let (kind, digits) : Char × List Char :=
    match text.toList with
    | '-' :: rest => ('-', rest)
    | '/' :: rest => ('/', rest)
    | rest => ('=', rest)
  match readMode? (String.ofList digits) with
  | some asked => return .permission kind (newMode asked false 0)
  | none => refuse ("invalid mode " ++ shownPath text)

def kinds (name : String) : ReadSearch Search := do
  let text ← argument name
  let letters := text.toList.filter (· ≠ ',')
  match letters.find? fun c => !"bcdpflsD".toList.contains c with
  | some c => refuse ("Unknown argument to " ++ name ++ ": " ++ c.toString)
  | none => return .kind letters

def depth (name : String) : ReadSearch Nat := do
  let text ← argument name
  match decimal? text with
  | some n => return n
  | none =>
    refuse ("Expected a positive decimal integer argument to " ++ name ++ ", but got " ++
      shownPath text)

def command (name : String) : ReadSearch Search := do
  let words := (← get).words
  let single := words.takeWhile (· ≠ ";")
  let several := (List.range words.length).find? fun i =>
    words[i]? = some "+" && 0 < i && words[i - 1]? = some "{}"
  let missing {α : Type} : ReadSearch α := refuse ("missing argument to `" ++ name ++ "'")
  match several with
  | some i =>
    if i < single.length then
      let number := (← get).collectors
      modify fun r => { r with words := words.drop (i + 1), collectors := number + 1 }
      return .collect number (words.take (i - 1))
    else pure ()
  | none => pure ()
  if single.length = words.length || single.isEmpty then missing
  modify fun r => { r with words := words.drop (single.length + 1) }
  return .exec single

/-- Changes the options of the search. It holds for everything. -/
def option (f : SearchOptions → SearchOptions) : ReadSearch Search := do
  modify fun r => { r with options := f r.options }
  return .always true

def primary (name : String) : ReadSearch Search := do
  match name with
  | "-name" => return .name false (← pattern false name)
  | "-iname" => return .name true (← pattern true name)
  | "-path" => return .path false (← pattern false name)
  | "-wholename" => return .path false (← pattern false name)
  | "-ipath" => return .path true (← pattern true name)
  | "-lname" => return .linkText false (← pattern false name)
  | "-ilname" => return .linkText true (← pattern true name)
  | "-type" => kinds name
  | "-xtype" =>
    match ← kinds name with
    | .kind letters => return .farKind letters
    | other => return other
  | "-links" =>
    let text ← argument name
    let (comparison, digits) := compared text
    match decimal? (String.ofList digits) with
    | some n => return .links comparison n
    | none => refuse ("non-numeric argument to -links: " ++ shownPath text)
  | "-samefile" =>
    let path ← argument name
    match ← StateT.lift (Program.find path) with
    | .ok (l, _) => return .sameAs l
    | .error fault => refuse (shownPath path ++ ": " ++ faultWording fault)
  | "-size" => size name
  | "-empty" => return .empty
  | "-perm" => permission name
  | "-executable" => return .isExecutable
  | "-readable" => return .always true
  | "-writable" => return .always true
  | "-true" => return .always true
  | "-false" => return .always false
  | "-print" => return .print "\n"
  | "-print0" => return .print "\x00"
  | "-printf" => return .printFormat (← argument name)
  | "-exec" => command name
  | "-execdir" => command name
  | "-delete" =>
    let _ ← option fun o => { o with isDepthFirst := true }
    return .delete
  | "-prune" => return .prune
  | "-quit" => return .quit
  | "-depth" => option fun o => { o with isDepthFirst := true }
  | "-d" => option fun o => { o with isDepthFirst := true }
  | "-mindepth" =>
    let n ← depth name
    option fun o => { o with least := n }
  | "-maxdepth" =>
    let n ← depth name
    option fun o => { o with most := some n }
  | "-xdev" => return .always true
  | "-mount" => return .always true
  | "-follow" => option fun o => { o with followsLinks := true }
  | "-noleaf" => return .always true
  | name =>
    if ["-newer", "-mtime", "-mmin", "-ctime", "-atime", "-cnewer"].contains name then
      let _ ← argument name
      return .always false
    else if name.startsWith "-" then refuse ("unknown predicate `" ++ name ++ "'")
    else refuse ("paths must precede expression: `" ++ name ++ "'")

def joined (one : ReadSearch Search) (isOver : String → Bool) : (limit : Nat) →
    ReadSearch Search
  | 0 => one
  | limit + 1 => do
    let first ← one
    match ← peek with
    | none => return first
    | some word =>
      if isOver word then return first
      else
        if word = "-a" ∨ word = "-and" then skip
        return .and first (← joined one isOver limit)

def separated (part : ReadSearch Search) (signs : List String)
    (join : Search → Search → Search) : (limit : Nat) → ReadSearch Search
  | 0 => part
  | limit + 1 => do
    let first ← part
    match ← peek with
    | none => return first
    | some word =>
      if signs.contains word then
        skip
        if (← peek).isNone then refuse ("expected an expression after " ++ shownPath word)
        return join first (← separated part signs join limit)
      else return first

/-- Reads a single condition, with signs for the opposite in front of it. `inner` reads one in
brackets. -/
def single (inner : ReadSearch Search) : (limit : Nat) → ReadSearch Search
  | 0 => return .always true
  | limit + 1 => do
    match ← peek with
    | none => return .always true
    | some word =>
      skip
      if word = "!" ∨ word = "-not" then
        if (← peek).isNone then refuse ("expected an expression after " ++ shownPath word)
        return .not (← single inner limit)
      else if word = "(" then
        if (← peek).isNone then
          refuse ("invalid expression; expected to find a ')' but didn't see one. " ++
            "Perhaps you need an extra predicate after '('")
        let condition ← inner
        match ← peek with
        | some ")" =>
          skip
          return condition
        | _ =>
          refuse ("invalid expression; I was expecting to find a ')' somewhere but did not " ++
            "see one.")
      else primary word

/-- Reads a condition, down to a depth of conditions in brackets. -/
def whole : (limit : Nat) → ReadSearch Search
  | 0 => return .always true
  | limit + 1 =>
    let isOver (word : String) : Bool := ["-o", "-or", ",", ")"].contains word
    let all := joined (single (whole limit) (limit + 1)) isOver limit
    separated (separated all ["-o", "-or"] .or limit) [","] .both limit

end ReadSearch

/-- What has come out for something that has been looked at. -/
structure Verdict where
  holds : Bool
  prunes : Bool
  quits : Bool
  /-- What commands collect, with their numbers. -/
  collected : List (Nat × String)

def Verdict.plain (holds : Bool) : Verdict := ⟨holds, false, false, []⟩

def Verdict.after (before next : Verdict) : Verdict :=
  ⟨next.holds, before.prunes || next.prunes, before.quits || next.quits,
    before.collected ++ next.collected⟩

/-- Something that has been found, with the path that the search has started from. -/
structure SearchItem where
  listed : Listed
  start : String
  depth : Nat

def Listed.kindLetter (l : Listed) : Char :=
  match l.entry with
  | .file _ => 'f'
  | .directory => 'd'
  | .link _ => 'l'
  | .null => 'c'

def SearchItem.detail (w : World) (i : SearchItem) : Char → String
  | 'p' => i.listed.name
  | 'f' => lastName i.listed.name
  | 'P' =>
    let behind := i.listed.name.toList.drop i.start.length
    String.ofList (if behind.head? = some '/' then behind.drop 1 else behind)
  | 'h' =>
    let kept := (i.listed.name.toList.reverse.dropWhile (· ≠ '/')).drop 1
    if kept.isEmpty then "." else String.ofList kept.reverse
  | 'd' => toString i.depth
  | 's' => toString i.listed.size
  | 'm' => inBase 8 (w.mode i.listed.location)
  | 'M' => i.listed.letters w
  | 'y' => i.listed.kindLetter.toString
  | 'Y' =>
    match i.listed.followed w with
    | .ok target => target.kindLetter.toString
    | .error .tooManyLinks => "L"
    | .error _ => "N"
  | 'l' =>
    match i.listed.entry with
    | .link path => ByteText.encode path
    | _ => ""
  | 'n' => toString (i.listed.links w)
  | 'u' => "root"
  | 'g' => "root"
  | '%' => "%"
  | c => "%" ++ c.toString

def SearchItem.text (w : World) (i : SearchItem) : List Char → List Char
  | '%' :: c :: rest => (i.detail w c).toList ++ i.text w rest
  | '\\' :: 'n' :: rest => '\n' :: i.text w rest
  | '\\' :: 't' :: rest => '\t' :: i.text w rest
  | '\\' :: '0' :: rest => '\x00' :: i.text w rest
  | '\\' :: '\\' :: rest => '\\' :: i.text w rest
  | c :: rest => c :: i.text w rest
  | [] => []

def runSearchCommand (start : Starter) (words : List String) : Program Bool := do
  match words with
  | [] => return false
  | name :: arguments =>
    match ← start name arguments with
    | .ok exit => return exit = .status 0
    | .error fault =>
      Program.complain (shownPath name ++ ": " ++ faultWording fault)
      return false

/-- Takes away what has been found. A directory has to be empty. -/
def deleteFound (l : Listed) : Program Bool := do
  if l.name = "." then return true
  let isFull := !((← Program.files).children l.location).isEmpty
  if l.entry == .directory && isFull then
    Program.object ("cannot delete " ++ shownPath l.name ++ ": Directory not empty")
    return false
  changeWorld fun w => w.removeAll l.location
  return true

def Search.evaluate (start : Starter) (i : SearchItem) : Search → Program Verdict
  | .always holds => return .plain holds
  | .name ignoresCase p =>
    let name := lastName i.listed.name
    return .plain (p.fits ((if ignoresCase then name.toLower else name).toList))
  | .path ignoresCase p =>
    let path := i.listed.name
    return .plain (p.fits ((if ignoresCase then path.toLower else path).toList))
  | .kind letters => return .plain (letters.contains i.listed.kindLetter)
  | .size comparison n unit =>
    return .plain (comparison.holds ((i.listed.size + unit - 1) / unit) n)
  | .empty => do
    let fs ← Program.files
    return .plain (match i.listed.entry with
      | .file b => b.isEmpty
      | .directory => (fs.children i.listed.location).isEmpty
      | _ => false)
  | .farKind letters => do
    let w := (← get).world
    return .plain (letters.contains ((i.listed.followed w).toOption.getD i.listed).kindLetter)
  | .linkText ignoresCase p =>
    return .plain (match i.listed.entry with
      | .link target =>
        let text := ByteText.encode target
        p.fits ((if ignoresCase then text.toLower else text).toList)
      | _ => false)
  | .links comparison n => do
    let w := (← get).world
    return .plain (comparison.holds (i.listed.links w) n)
  | .sameAs l => do
    let w := (← get).world
    return .plain ((w.sharing l).contains i.listed.location)
  | .permission way asked => do
    let mode := (← get).world.mode i.listed.location
    return .plain (match way with
      | '-' => mode &&& asked == asked
      | '/' => asked == 0 || mode &&& asked != 0
      | _ => mode == asked)
  | .isExecutable => do
    let w := (← get).world
    return .plain (i.listed.entry == .directory || w.mayExecute i.listed.location)
  | .print ending => do
    Program.printText (i.listed.name ++ ending)
    return .plain true
  | .printFormat format => do
    let w := (← get).world
    Program.printText (String.ofList (i.text w format.toList))
    return .plain true
  | .exec command => do
    let words := command.map fun w => i.listed.name.intercalate (w.splitOn "{}")
    return .plain (← runSearchCommand start words)
  | .collect n _ => return ⟨true, false, false, [(n, i.listed.name)]⟩
  | .delete => return .plain (← deleteFound i.listed)
  | .prune => return ⟨true, true, false, []⟩
  | .quit => return ⟨true, false, true, []⟩
  | .not p => do
    let v ← p.evaluate start i
    return { v with holds := !v.holds }
  | .and p q => do
    let v ← p.evaluate start i
    if v.holds && !v.quits then return v.after (← q.evaluate start i) else return v
  | .or p q => do
    let v ← p.evaluate start i
    if v.holds || v.quits then return v else return v.after (← q.evaluate start i)
  | .both p q => do
    let v ← p.evaluate start i
    if v.quits then return v else return v.after (← q.evaluate start i)

/-- Looks at something and at all that is below it, down to a depth. -/
def Search.walk (start : Starter) (o : SearchOptions) (s : Search) : (limit : Nat) →
    SearchItem → Program Verdict
  | 0, _ => return .plain true
  | limit + 1, i => do
    let look : Program Verdict :=
      if i.depth < o.least then return .plain true else s.evaluate start i
    let below (v : Verdict) : Program Verdict := do
      let isDeepest := o.most.any (· ≤ i.depth)
      let isThere := (← Program.files).isDirectoryAt i.listed.location
      if isDeepest || v.quits || !isThere || (v.prunes && !o.isDepthFirst) then return v
      let inside := sortedChildren (← get).world i.listed.location
      inside.foldlM (fun (v : Verdict) l => do
        if v.quits then return v
        let lead := i.listed.name
        let path := if lead.endsWith "/" then lead ++ l.name else lead ++ "/" ++ l.name
        let w := (← get).world
        let l : Listed := { l with name := path }
        let l := if o.followsLinks then (l.followed w).toOption.getD l else l
        return v.after (← s.walk start o limit ⟨l, i.start, i.depth + 1⟩)) v
    if o.isDepthFirst then
      let v ← below (.plain true)
      if v.quits then return v else return v.after (← look)
    else below (← look)

def searchPaths (start : Starter) (arguments : List String) : Program Unit := do
  let ways := arguments.takeWhile (["-H", "-L", "-P"].contains ·)
  let way := ways.getLast?
  let arguments := arguments.drop ways.length
  let startsCondition (word : String) : Bool :=
    (word.startsWith "-" && word ≠ "-" && word ≠ "--") || word = "(" || word = "!"
  let arguments := if arguments.head? = some "--" then arguments.tail else arguments
  let paths := arguments.takeWhile (!startsCondition ·)
  let words := arguments.drop paths.length
  let (condition, r) ← (ReadSearch.whole (words.length + 1)).run ⟨words, ⟨0, none, false, way = some "-L"⟩, 0⟩
  match r.words with
  | [] => pure ()
  | _ => Program.refuse "invalid expression; you have too many ')'"
  let condition := if words.isEmpty then .print "\n"
    else if condition.acts then condition else .and condition (.print "\n")
  let verdict ← (if paths.isEmpty then ["."] else paths).foldlM (fun (v : Verdict) path => do
    if v.quits then return v
    let followsStart := way = some "-H" || r.options.followsLinks
    let found ← match followsStart, ← Program.find path with
      | true, .ok found => pure (.ok found)
      | _, _ => Program.findItself path
    match found with
    | .error fault =>
      Program.object (shownPath path ++ ": " ++ faultWording fault)
      return v
    | .ok (l, e) =>
      return v.after (← condition.walk start r.options listingDepth ⟨⟨path, l, e⟩, path, 0⟩))
    (.plain true)
  condition.collectors.forM fun (n, command) => do
    let found := verdict.collected.filterMap fun (m, path) => if m = n then some path else none
    if !found.isEmpty then
      if !(← runSearchCommand start (command ++ found)) then Program.setStatus 1

end FlashImage.Shell
