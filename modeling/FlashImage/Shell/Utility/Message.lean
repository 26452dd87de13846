import FlashImage.Shell.Print
import FlashImage.Shell.Utility.Basic

/-!
Programs that print what they are told, and what they know of the machine.

The machine has one processor architecture, and everything runs for the first of its users.
-/

set_option autoImplicit false
set_option relaxedAutoImplicit false

namespace FlashImage.Shell

def takeEscape (base limit : Nat) (s : List Char) : Option (Char × List Char) :=
  match takeDigits base limit s with
  | ([], _) => none
  | (digits, rest) => some (byteChar (valueOf base digits), rest)

/-- A text with its escapes replaced, and whether more may be printed behind it. -/
def openEscapes : (limit : Nat) → List Char → List Char × Bool
  | 0, _ => ([], true)
  | _ + 1, [] => ([], true)
  | _ + 1, '\\' :: 'c' :: _ => ([], false)
  | limit + 1, '\\' :: c :: rest =>
    let (shown, rest) : List Char × List Char :=
      match c, escaped? c with
      | '0', _ =>
        match takeEscape 8 3 rest with
        | some (d, rest) => ([d], rest)
        | none => (['\x00'], rest)
      | 'x', _ =>
        match takeEscape 16 2 rest with
        | some (d, rest) => ([d], rest)
        | none => (['\\', 'x'], rest)
      | _, some d => ([d], rest)
      | c, none => (['\\', c], rest)
    let (others, goesOn) := openEscapes limit rest
    (shown ++ others, goesOn)
  | limit + 1, c :: rest =>
    let (others, goesOn) := openEscapes limit rest
    (c :: others, goesOn)

/-- Prints arguments. Options of single letters stand in front of them. -/
def printArguments (arguments : List String) : Program Unit := do
  let isOption (s : String) : Bool :=
    match s.toList with
    | '-' :: c :: letters => (c :: letters).all ("neE".toList.contains ·)
    | _ => false
  let options := arguments.takeWhile isOption
  let letters := options.flatMap fun s => s.toList.drop 1
  let hasEscapes := (letters.filter (· ≠ 'n')).getLast? = some 'e'
  let text := " ".intercalate (arguments.drop options.length)
  let (shown, goesOn) :=
    if hasEscapes then openEscapes (text.length + 1) text.toList else (text.toList, true)
  let ending := if letters.contains 'n' || !goesOn then "" else "\n"
  Program.printText (String.ofList shown ++ ending)

/-- The number of bytes that a program prints that never ends by itself. -/
def endlessSize : Nat := 4194304

def printForever (arguments : List String) : Program Unit := do
  let words := match arguments with
    | [] => ["y"]
    | "--" :: words => words
    | words => words
  let line := ByteText.toBytes (" ".intercalate words ++ "\n")
  let portion := (List.replicate (8192 / line.length + 1) line).flatten
  let rec go : (count : Nat) → Program Unit
    | 0 => return ()
    | count + 1 => do
      Program.print portion
      go count
  go (endlessSize / portion.length + 1)

def refuseOperands (g : Given) : Program Unit :=
  match g.operands with
  | [] => return ()
  | extra :: _ => Program.refuseUsage 1 ("extra operand " ++ shownPath extra)

def printConstant (line : String) (arguments : List String) : Program Unit := do
  let g ← givenTo [] arguments
  refuseOperands g
  Program.printText (line ++ "\n")

def printUser (arguments : List String) : Program Unit := do
  let g ← givenTo (flags "agGnruz" ++ [⟨'u', "user", false⟩, ⟨'g', "group", false⟩,
    ⟨'n', "name", false⟩, ⟨'G', "groups", false⟩, ⟨'r', "real", false⟩]) arguments
  match g.operands with
  | name :: _ =>
    if name ≠ "root" then Program.refuse (shownPath name ++ ": no such user")
  | [] => pure ()
  if g.has 'u' || g.has 'g' || g.has 'G' then
    Program.printText (if g.has 'n' then "root\n" else "0\n")
  else Program.printText "uid=0(root) gid=0(root) groups=0(root)\n"

def printSystem (arguments : List String) : Program Unit := do
  let g ← givenTo (flags "asnrvmpio" ++ [⟨'a', "all", false⟩, ⟨'s', "kernel-name", false⟩,
    ⟨'m', "machine", false⟩, ⟨'o', "operating-system", false⟩]) arguments
  refuseOperands g
  let parts : List (Char × String) := [('s', "Linux"), ('n', "localhost"), ('r', "6.1.0"),
    ('v', "#1 SMP"), ('m', "x86_64"), ('p', "x86_64"), ('i', "x86_64"), ('o', "GNU/Linux")]
  let asked := parts.filter fun (letter, _) => g.has letter || g.has 'a'
  let asked := if g.options.isEmpty then parts.take 1 else asked
  Program.printText (" ".intercalate (asked.map (·.2)) ++ "\n")

def tellTerminal (_ : List String) : Program Unit := do
  Program.printText "not a tty\n"
  Program.finish 1

def factorsFrom : (limit : Nat) → (factor n : Nat) → List Nat
  | 0, _, _ => []
  | limit + 1, factor, n =>
    if n < 2 then []
    else if n < factor * factor then [n]
    else if n % factor = 0 then factor :: factorsFrom limit factor (n / factor)
    else factorsFrom limit (factor + 1) n

def printFactors (arguments : List String) : Program Unit := do
  let g ← givenTo [] arguments
  let isBlank (c : Char) : Bool := c = ' ' || c = '\n' || c = '\t'
  let words ← if g.operands.isEmpty then do
      let text := (ByteText.ofBytes (← Program.takeInput)).map fun c =>
        if isBlank c then ' ' else c
      pure ((text.splitOn " ").filter (· ≠ ""))
    else pure g.operands
  words.forM fun word => do
    match decimal? word with
    | some n =>
      let factors := (factorsFrom 1000000 2 n).map fun f => " " ++ toString f
      Program.printText (toString n ++ ":" ++ String.join factors ++ "\n")
    | none => Program.object (shownPath word ++ " is not a valid positive integer")

/-- Every number that is found divides the number that is split. -/
theorem dvd_of_mem_factorsFrom (limit factor n : Nat) :
    ∀ d ∈ factorsFrom limit factor n, d ∣ n := by
  induction limit generalizing factor n with
  | zero => simp [factorsFrom]
  | succ limit ih =>
    intro d hd
    simp only [factorsFrom] at hd
    split at hd
    · simp at hd
    · split at hd
      · simp only [List.mem_singleton] at hd
        exact hd ▸ Nat.dvd_refl n
      · split at hd
        next hmod =>
          have hdvd : factor ∣ n := Nat.dvd_of_mod_eq_zero hmod
          rcases List.mem_cons.1 hd with rfl | hd
          · exact hdvd
          · exact Nat.dvd_trans (ih factor (n / factor) d hd) (Nat.div_dvd_of_dvd hdvd)
        · exact ih (factor + 1) n d hd

end FlashImage.Shell
