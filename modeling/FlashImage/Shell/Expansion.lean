import FlashImage.Shell.Arithmetic
import FlashImage.Shell.Field
import FlashImage.Shell.State

/-!
How a shell finds what the words of a script stand for.

How the output of a command is taken is an argument.
-/

set_option autoImplicit false
set_option relaxedAutoImplicit false

namespace FlashImage.Shell

/-- What the value of a parameter is. -/
inductive ParameterValue
  | unset
  | text (s : String)
  /-- All arguments, each of which is a field of its own or not. -/
  | all (arguments : List String) (separate : Bool)
  deriving DecidableEq, Repr

def optionLetters : String := "ubaCEVvxsnmiIfe"

def State.separators (st : State) : List Char := ((st.value? "IFS").getD " \t\n").toList

def State.joint (st : State) : String :=
  match st.value? "IFS" with
  | none => " "
  | some s => String.ofList (s.toList.take 1)

def State.parameter (st : State) (name : String) : ParameterValue :=
  let ofOption (s : Option String) : ParameterValue :=
    match s with
    | some s => .text s
    | none => .unset
  match name with
  | "@" => .all st.arguments true
  | "*" => .all st.arguments false
  | "#" => .text (toString st.arguments.length)
  | "?" => .text (toString st.status)
  | "$" => .text (toString st.shellNumber)
  | "!" => ofOption (st.lastJob.map toString)
  | "-" => .text (String.ofList (optionLetters.toList.filter st.has))
  | "0" => .text st.name
  | "LINENO" => .text (toString (st.line + 1 - max 1 st.functionLine))
  | name =>
    match decimal? name with
    | some 0 => .text st.name
    | some n => ofOption st.arguments[n - 1]?
    | none => ofOption (st.value? name)

/-- How a parameter stands in a script. -/
structure Standing where
  quoted : Bool
  /-- Whether the word that it stands in is split into fields. -/
  split : Bool
  deriving DecidableEq, Repr

/-- The texts of a value, each of which ends a field but the last. -/
def State.textsOf (st : State) (s : Standing) : ParameterValue → List String
  | .unset => []
  | .text text => [text]
  | .all arguments separate =>
    let isApart := s.split && (if s.quoted then separate else (st.value? "IFS").isSome)
    if isApart then arguments else [String.intercalate st.joint arguments]

/-- The size of texts, where the end of a field counts like a character. -/
def sizeOfTexts (texts : List String) : Nat :=
  (String.join texts).length + (texts.length - 1)

def State.homeOf? (st : State) (user : String) : Option String :=
  if user = "" then st.value? "HOME" else if user = "root" then some "/root" else none

/-- Replaces a tilde at the start of a word, which stands for a directory. -/
def State.expandTilde (st : State) (ends : Char → Bool) (w : Word) : Word :=
  match w with
  | .plain '~' :: rest =>
    let user := rest.takeWhile (continues ends)
    let closes :=
      match rest.drop user.length with
      | [] => true
      | .plain c :: _ => ends c
      | _ => false
    match closes, (Word.plainText? user).bind st.homeOf? with
    | true, some home => .fixed home :: rest.drop user.length
    | _, _ => w
  | w => w
where
  continues (ends : Char → Bool) : Part → Bool
    | .plain c => !ends c
    | _ => false

/-- Replaces tildes at the start of a value and behind its colons. -/
def State.expandTildes (st : State) (w : Word) : Word :=
  go (w.length + 1) w
where
  go : Nat → Word → Word
    | 0, w => w
    | limit + 1, w =>
      let w := st.expandTilde (fun c => c = '/' || c = ':') w
      let first := w.takeWhile (!isColon ·)
      match w.drop first.length with
      | colon :: rest => first ++ colon :: go limit rest
      | [] => w
  isColon : Part → Bool
    | .plain ':' => true
    | _ => false

abbrev Capture := Command → Interpreting String

/-- The number that an expression has as the value of a variable. -/
def numberOfVariable (name : String) : Interpreting Int64 := do
  match (← get).value? name with
  | none => return 0
  | some s =>
    if s.isEmpty then return 0
    match integerOf? s with
    | some n => return n
    | none => Interpreting.fail ("Illegal number: " ++ s)

def evaluate (text : String) : Interpreting Int64 := do
  let refuse (wording : String) : Interpreting Int64 :=
    Interpreting.fail ("arithmetic expression: " ++ wording ++ ": \"" ++ text ++ "\"")
  let assign (name : String) (n : Int64) : Interpreting Unit :=
    Interpreting.assign name (toString n.toInt)
  (Expression.ofText text).eval ⟨numberOfVariable, assign, refuse⟩ false

def asValue (quoted : Bool) (w : List Glyph) : List Glyph :=
  if quoted then w
  else w.map fun g =>
    match g with
    | .plain c => .value c
    | g => g

def refuseUnset {α : Type} (name : String) (orEmpty : Bool) (message : String) : Interpreting α :=
  do
  let tail := if orEmpty then " or null" else ""
  Interpreting.fail
    (name ++ ": " ++ (if message.isEmpty then "parameter not set" ++ tail else message))

/-- The value of a parameter that has to be set if the option for that is. -/
def checkedParameter (name : String) : Interpreting ParameterValue := do
  let st ← get
  let v := st.parameter name
  if v = .unset && st.has 'u' then refuseUnset name false "" else return v

/-- The characters that a parameter stands for. `word` gives those of a word, which is split into
fields or not. -/
def expandParameter (word : (split : Bool) → Word → Interpreting (List Glyph)) (name : String)
    (use : Use)
    (s : Standing) : Interpreting (List Glyph) := do
  let texts (v : ParameterValue) : Interpreting (List String) := return (← get).textsOf s v
  match use with
  | .value => return textsGlyphs s.quoted (← texts (← checkedParameter name))
  | .size =>
    let size := sizeOfTexts ((← get).textsOf ⟨s.quoted, false⟩ (← checkedParameter name))
    return valueGlyphs s.quoted (toString size)
  | .unknown => Interpreting.fail "Bad substitution"
  | .trim atEnd longest pattern =>
    match ← checkedParameter name with
    | .unset => return []
    | v =>
      let texts := (← texts v).map String.toList
      let p := Pattern.ofChars (patternChars (← word false pattern))
      let left :=
        if atEnd then (p.dropEnd? longest texts).getD texts else p.dropStart longest texts
      return textsGlyphs s.quoted (left.map String.ofList)
  | .fallback kind orEmpty other =>
    let v := (← get).parameter name
    let values ← texts v
    let isSet := v ≠ .unset && !(orEmpty && sizeOfTexts values = 0)
    match kind, isSet with
    | .alternative, true => return asValue s.quoted (← word s.split other)
    | .alternative, false => return []
    | _, true => return textsGlyphs s.quoted values
    | .use, false => return asValue s.quoted (← word s.split other)
    | .refuse, false => refuseUnset name orEmpty (textOf (← word false other))
    | .assign, false =>
      if !isName name then Interpreting.fail (name ++ ": bad variable name")
      let value := textOf (← word false other)
      Interpreting.assign name value
      return valueGlyphs s.quoted value

/-- The characters that a word stands for, which is split into fields or not, down to a depth of
words in words. -/
def expandWord (capture : Capture) :
    (split : Bool) → (depth : Nat) → Word → Interpreting (List Glyph)
  | _, 0, _ => Interpreting.fail "Bad substitution"
  | split, depth + 1, w => do
    let inner (split : Bool) (w : Word) : Interpreting (List Glyph) := do
      let ends (c : Char) : Bool := c = '/'
      expandWord capture split depth ((← get).expandTilde ends w)
    let part (p : Part) : Interpreting (List Glyph) := do
      match p with
      | .plain c => return [.plain c]
      | .fixed s => return quotedGlyphs s
      | .parameter name use quoted => expandParameter inner name use ⟨quoted, split⟩
      | .output c quoted => return valueGlyphs quoted (← capture c)
      | .value e quoted => do
        let text := textOf (← expandWord capture false depth e)
        return valueGlyphs quoted (toString (← evaluate text).toInt)
    return (← w.mapM part).flatten

def wordDepth : Nat := 100000

/-- The characters of a word that is not split, with tildes replaced. -/
def expandUnsplit (capture : Capture) (w : Word) : Interpreting (List Glyph) := do
  expandWord capture false wordDepth ((← get).expandTilde (· = '/') w)

/-- The text that a word stands for. It is not split. -/
def expandText (capture : Capture) (w : Word) : Interpreting String := do
  return textOf (← expandUnsplit capture w)

def expandValue (capture : Capture) (w : Word) : Interpreting String := do
  return textOf (← expandWord capture false wordDepth ((← get).expandTildes w))

def expandPattern (capture : Capture) (w : Word) : Interpreting Pattern := do
  return Pattern.ofChars (patternChars (← expandUnsplit capture w))

def expandFields (capture : Capture) (w : Word) : Interpreting (List String) := do
  let w ← expandWord capture true wordDepth ((← get).expandTilde (· = '/') w)
  let st ← get
  let fields := splitFields st.separators w
  if st.has 'f' then return fields.map textOf
  return fields.flatMap (expandField st.files)

end FlashImage.Shell
