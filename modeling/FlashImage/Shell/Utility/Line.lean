import FlashImage.Shell.Utility.Sort

/-!
Programs that work on lines one by one or beside each other: parts of lines, lines without
repetition, lines of several files put together, and lines that files have in common.
-/

set_option autoImplicit false
set_option relaxedAutoImplicit false

namespace FlashImage.Shell

/-- A range of positions that starts at one. -/
structure PositionRange where
  first : Nat
  /-- The last position, unless the range goes on to the end. -/
  last : Option Nat
  deriving DecidableEq, Repr

def PositionRange.has (r : PositionRange) (n : Nat) : Bool :=
  r.first ≤ n && (match r.last with
    | some m => n ≤ m
    | none => true)

def readRanges (inFields : Bool) (text : String) : Except String (List PositionRange) :=
  ((text.replace " " ",").splitOn ",").mapM one
where
  zero : String :=
    if inFields then "fields are numbered from 1" else "byte/character positions are numbered from 1"
  invalid (s : String) : String :=
    (if inFields then "invalid field value " else "invalid byte/character position ") ++ shownPath s
  number (s : String) : Except String Nat := do
    match decimal? s with
    | some n => return n
    | none => throw (invalid s)
  one (s : String) : Except String PositionRange := do
    match s.splitOn "-" with
    | [single] =>
      if single.isEmpty then throw zero
      let n ← number single
      if n = 0 then throw zero
      return ⟨n, some n⟩
    | [first, last] =>
      if first.isEmpty && last.isEmpty then throw "invalid range with no endpoint: -"
      let n ← if first.isEmpty then pure 1 else number first
      if n = 0 then throw zero
      if last.isEmpty then return ⟨n, none⟩
      let m ← number last
      if m < n then throw (if m = 0 && n = 1 then zero else "invalid decreasing range")
      return ⟨n, some m⟩
    | _ => throw (if inFields then "invalid field range" else "invalid byte or character range")

/-- How lines are cut. -/
structure CutRule where
  kind : Char
  ranges : List PositionRange
  complement : Bool
  delimiter : Char
  /-- What stands between the parts that are kept, if that is given. -/
  joint : Option String
  /-- Whether lines without the delimiter are left out. -/
  onlyDelimited : Bool

def CutRule.keeps (r : CutRule) (n : Nat) : Bool := r.ranges.any (·.has n) != r.complement

/-- The characters of a line that are kept, with what stands between ranges. -/
def CutRule.chars (r : CutRule) (line : List Char) : String :=
  let joint := r.joint.getD ""
  let starts (n : Nat) : Bool :=
    if r.complement then !r.keeps (n - 1)
    else r.ranges.any fun s => s.first = n && !(r.ranges.any fun t => t.has (n - 1) && t.has n)
  let add (s : String × Bool) (p : Char × Nat) : String × Bool :=
    let n := p.2 + 1
    if !r.keeps n then s
    else (s.1 ++ (if s.2 && starts n then joint else "") ++ p.1.toString, true)
  (line.zipIdx.foldl add ("", false)).1

def CutRule.cut? (r : CutRule) (line : String) : Option String :=
  if r.kind ≠ 'f' then some (r.chars line.toList)
  else if !line.toList.contains r.delimiter then if r.onlyDelimited then none else some line
  else
    let fields := (fieldsOf (some r.delimiter) line.toList).map String.ofList
    let kept := fields.zipIdx.filterMap fun (f, i) => if r.keeps (i + 1) then some f else none
    some ((r.joint.getD r.delimiter.toString).intercalate kept)

def cutFiles (arguments : List String) : Program Unit := do
  let g ← givenTo (flags "nsz" ++ settings "bcdf" ++ [⟨'C', "complement", false⟩,
    ⟨'O', "output-delimiter", true⟩, ⟨'f', "fields", true⟩, ⟨'d', "delimiter", true⟩,
    ⟨'c', "characters", true⟩, ⟨'b', "bytes", true⟩, ⟨'s', "only-delimited", false⟩]) arguments
  let refuse {α : Type} (wording : String) : Program α := Program.refuseUsage 1 wording
  let lists := g.options.filter fun (c, _) => "bcf".toList.contains c
  match lists with
  | [] => refuse "you must specify a list of bytes, characters, or fields"
  | [(kind, text)] =>
    let delimiter ← match (g.value? 'd').map String.toList with
      | none => pure '\t'
      | some [] => pure '\x00'
      | some [c] => pure c
      | some _ => refuse "the delimiter must be a single character"
    if kind ≠ 'f' && (g.value? 'd').isSome then
      refuse "an input delimiter may be specified only when operating on fields"
    if kind ≠ 'f' && g.has 's' then
      refuse "suppressing non-delimited lines makes sense\n\tonly when operating on fields"
    match readRanges (kind = 'f') text with
    | .error wording => refuse wording
    | .ok ranges =>
      let rule : CutRule := ⟨kind, ranges, g.has 'C', delimiter, g.value? 'O', g.has 's'⟩
      readOperands g.operands fun _ b => printLines ((textLines b).filterMap rule.cut?)
  | _ => refuse "only one list may be specified"

/-- Lines that are equal and follow one another: the first of them, and all of them. -/
def groupLines (key : String → String) : List String → List (String × List String)
  | [] => []
  | line :: rest =>
    match groupLines key rest with
    | [] => [(line, [line])]
    | (first, lines) :: groups =>
      if key line = key first then (line, line :: lines) :: groups
      else (line, [line]) :: (first, lines) :: groups

def dropRepeated (arguments : List String) : Program Unit := do
  let g ← givenTo (flags "cduiDz" ++ settings "fsw" ++ [⟨'c', "count", false⟩,
    ⟨'d', "repeated", false⟩, ⟨'u', "unique", false⟩, ⟨'i', "ignore-case", false⟩,
    ⟨'f', "skip-fields", true⟩, ⟨'s', "skip-chars", true⟩, ⟨'w', "check-chars", true⟩]) arguments
  let number (letter : Char) (what : String) : Program (Option Nat) := do
    match g.value? letter with
    | none => return none
    | some s =>
      match decimal? s with
      | some n => return some n
      | none => Program.refuse (s ++ ": invalid number of " ++ what)
  let fields := (← number 'f' "fields to skip").getD 0
  let skipped := (← number 's' "bytes to skip").getD 0
  let width ← number 'w' "bytes to compare"
  match g.operands.drop 2 with
  | extra :: _ => Program.refuseUsage 1 ("extra operand " ++ shownPath extra)
  | [] => pure ()
  let key (line : String) : String :=
    let behind := ((fieldsOf none line.toList).drop fields).flatten.drop skipped
    let part := match width with
      | some n => behind.take n
      | none => behind
    String.ofList (if g.has 'i' then part.map Char.toLower else part)
  let path := g.operands.headD "-"
  match ← readOperand? path with
  | .error .isDirectory => Program.refuse ("error reading " ++ shownPath path ++ ": Is a directory")
  | .error fault => Program.refuse (plainPath path ++ ": " ++ faultWording fault)
  | .ok b =>
    let isShown (lines : List String) : Bool :=
      !((g.has 'd' || g.has 'D') && lines.length = 1) && !(g.has 'u' && lines.length ≠ 1)
    let groups := (groupLines key (textLines b)).filter (isShown ·.2)
    let text := groups.flatMap fun (first, lines) =>
      if g.has 'D' then lines
      else if g.has 'c' then [alignRight 7 (toString lines.length) ++ " " ++ first]
      else [first]
    match g.operands with
    | [_, out] =>
      let content := ByteText.toBytes (String.join (text.map (· ++ "\n")))
      match ← Program.writePath out .write content with
      | .ok () => return ()
      | .error fault => Program.refuse (plainPath out ++ ": " ++ faultWording fault)
    | _ => printLines text

def readSeparators : List Char → List String
  | [] => []
  | '\\' :: 'n' :: rest => "\n" :: readSeparators rest
  | '\\' :: 't' :: rest => "\t" :: readSeparators rest
  | '\\' :: '0' :: rest => "" :: readSeparators rest
  | '\\' :: c :: rest => c.toString :: readSeparators rest
  | c :: rest => c.toString :: readSeparators rest

def joinInTurn (separators : List String) (texts : List String) : String :=
  let joint (i : Nat) : String :=
    if separators.isEmpty then "" else separators.getD (i % separators.length) ""
  match texts with
  | [] => ""
  | first :: rest => rest.zipIdx.foldl (fun s (t, i) => s ++ joint i ++ t) first

def dealLines (columns : Nat) (lines : List String) : List (List String) :=
  (List.range columns).map fun i =>
    (lines.zipIdx.filter fun (_, n) => n % columns = i).map (·.1)

def pasteFiles (arguments : List String) : Program Unit := do
  let g ← givenTo (flags "sz" ++ settings "d" ++ [⟨'s', "serial", false⟩,
    ⟨'d', "delimiters", true⟩]) arguments
  let separators := readSeparators ((g.value? 'd').getD "\t").toList
  let separators := if g.value? 'd' = some "" then [""] else separators
  let paths := if g.operands.isEmpty then ["-"] else g.operands
  let inputs := (paths.filter (· = "-")).length
  let input ← if 0 < inputs && !g.has 's' then do
      pure (dealLines inputs (textLines (← Program.takeInput)))
    else pure []
  let refused (path : String) (fault : FileFault) : String :=
    plainPath path ++ ": " ++ faultWording fault
  let (columns, _) ← paths.foldlM (fun (s : List (List String) × Nat) path => do
    if path = "-" && !g.has 's' then return (input.getD s.2 [] :: s.1, s.2 + 1)
    else
      match ← readOperand? path with
      | .ok b => return (textLines b :: s.1, s.2)
      | .error fault =>
        if g.has 's' then
          Program.object (refused path fault)
          return s
        else Program.refuse (refused path fault)) ([], 0)
  let columns := columns.reverse
  if g.has 's' then printLines (columns.map (joinInTurn separators))
  else
    let height := columns.foldl (fun n c => max n c.length) 0
    let arrays := columns.map List.toArray
    printLines ((List.range height).map fun i =>
      joinInTurn separators (arrays.map fun c => c.getD i ""))

/-- A line that one of two files has, or both. -/
inductive CommonLine
  | first (line : String)
  | second (line : String)
  | both (line : String)

def compareLines : (limit : Nat) → List String → List String → List CommonLine
  | 0, _, _ => []
  | _, [], [] => []
  | limit + 1, a :: as, [] => .first a :: compareLines limit as []
  | limit + 1, [], b :: bs => .second b :: compareLines limit [] bs
  | limit + 1, a :: as, b :: bs =>
    match compareChars a.toList b.toList with
    | .eq => .both a :: compareLines limit as bs
    | .lt => .first a :: compareLines limit as (b :: bs)
    | .gt => .second b :: compareLines limit (a :: as) bs

def printCommon (arguments : List String) : Program Unit := do
  let g ← givenTo (flags "123") arguments
  let read (path : String) : Program (List String) := do
    match ← readOperand? path with
    | .ok b => return textLines b
    | .error fault => Program.refuse (plainPath path ++ ": " ++ faultWording fault)
  match g.operands with
  | [a, b] =>
    let first ← read a
    let second ← read b
    let tab (c : Char) : String := if g.has c then "" else "\t"
    let shown : CommonLine → Option String
      | .first line => if g.has '1' then none else some line
      | .second line => if g.has '2' then none else some (tab '1' ++ line)
      | .both line => if g.has '3' then none else some (tab '1' ++ tab '2' ++ line)
    let limit := first.length + second.length + 1
    printLines ((compareLines limit first second).filterMap shown)
  | [] => Program.refuseUsage 1 "missing operand"
  | [a] => Program.refuseUsage 1 ("missing operand after " ++ shownPath a)
  | _ :: _ :: c :: _ => Program.refuseUsage 1 ("extra operand " ++ shownPath c)

end FlashImage.Shell
