import FlashImage.Shell.Utility.Basic
import FlashImage.Text.Numeral

/-!
The program that prints dates.

A moment is a number of seconds since the start of the epoch. The clock stands still, so that a
script has the same results whenever it is run.
-/

set_option autoImplicit false
set_option relaxedAutoImplicit false

namespace FlashImage.Shell

def presentMoment : Nat := 1767225600

/-- A date: the year, the month and the day of the month, each of the latter two from one on. -/
structure CalendarDate where
  year : Nat
  month : Nat
  day : Nat
  deriving DecidableEq, Repr

namespace CalendarDate

def isLeap (year : Nat) : Bool := year % 4 = 0 && (year % 100 ≠ 0 || year % 400 = 0)

def monthLength (year month : Nat) : Nat :=
  if month = 2 then (if isLeap year then 29 else 28)
  else if [4, 6, 9, 11].contains month then 30
  else 31

def yearLength (year : Nat) : Nat := if isLeap year then 366 else 365

/-- The date of a day that is counted from the start of a month on. -/
def ofDayInYear (year : Nat) : (limit : Nat) → (month day : Nat) → CalendarDate
  | 0, month, day => ⟨year, month, day + 1⟩
  | limit + 1, month, day =>
    if monthLength year month ≤ day then
      ofDayInYear year limit (month + 1) (day - monthLength year month)
    else ⟨year, month, day + 1⟩

/-- The date of a day that is counted from the start of a year on. -/
def ofDay : (limit : Nat) → (year day : Nat) → CalendarDate
  | 0, year, day => ⟨year, 1, day + 1⟩
  | limit + 1, year, day =>
    if yearLength year ≤ day then ofDay limit (year + 1) (day - yearLength year)
    else
      ofDayInYear year 12 1 day

def dayOfYear (d : CalendarDate) : Nat :=
  ((List.range (d.month - 1)).map fun i => monthLength d.year (i + 1)).foldl (· + ·) (d.day - 1)

def dayOfEpoch (d : CalendarDate) : Nat :=
  ((List.range (d.year - 1970)).map fun i => yearLength (1970 + i)).foldl (· + ·) d.dayOfYear

end CalendarDate

def monthNames : List String :=
  ["January", "February", "March", "April", "May", "June", "July", "August", "September", "October",
    "November", "December"]

def dayNames : List String :=
  ["Sunday", "Monday", "Tuesday", "Wednesday", "Thursday", "Friday", "Saturday"]

def momentPart (seconds : Nat) (c : Char) : String :=
  let days := seconds / 86400
  let rest := seconds % 86400
  let date := CalendarDate.ofDay (days / 365 + 1) 1970 days
  let two (n : Nat) : String := Text.zeroFilled 2 (toString n)
  let blank (n : Nat) : String := if n < 10 then " " ++ toString n else toString n
  let (hour, minute, second) := (rest / 3600, rest % 3600 / 60, rest % 60)
  let weekday := (days + 4) % 7
  let twelfth := if hour % 12 = 0 then 12 else hour % 12
  let monthName := monthNames.getD (date.month - 1) ""
  let dayName := dayNames.getD weekday ""
  let clock := two hour ++ ":" ++ two minute ++ ":" ++ two second
  match c with
  | 'Y' => toString date.year
  | 'y' => two (date.year % 100)
  | 'C' => two (date.year / 100)
  | 'm' => two date.month
  | 'd' => two date.day
  | 'e' => blank date.day
  | 'j' => Text.zeroFilled 3 (toString (date.dayOfYear + 1))
  | 'H' => two hour
  | 'k' => blank hour
  | 'I' => two twelfth
  | 'l' => blank twelfth
  | 'M' => two minute
  | 'S' => two second
  | 'N' => "000000000"
  | 's' => toString seconds
  | 'p' => if hour < 12 then "AM" else "PM"
  | 'P' => if hour < 12 then "am" else "pm"
  | 'a' => String.ofList (dayName.toList.take 3)
  | 'A' => dayName
  | 'b' => String.ofList (monthName.toList.take 3)
  | 'h' => String.ofList (monthName.toList.take 3)
  | 'B' => monthName
  | 'u' => toString (if weekday = 0 then 7 else weekday)
  | 'w' => toString weekday
  | 'c' =>
    String.ofList (dayName.toList.take 3) ++ " " ++ String.ofList (monthName.toList.take 3) ++ " " ++
      blank date.day ++ " " ++ clock ++ " " ++ toString date.year
  | 'F' => toString date.year ++ "-" ++ two date.month ++ "-" ++ two date.day
  | 'D' => two date.month ++ "/" ++ two date.day ++ "/" ++ two (date.year % 100)
  | 'x' => two date.month ++ "/" ++ two date.day ++ "/" ++ two (date.year % 100)
  | 'T' => clock
  | 'X' => clock
  | 'R' => two hour ++ ":" ++ two minute
  | 'Z' => "UTC"
  | 'z' => "+0000"
  | 'n' => "\n"
  | 't' => "\t"
  | '%' => "%"
  | c => String.ofList ['%', c]

def momentText (seconds : Nat) : List Char → List Char
  | '%' :: '-' :: c :: rest =>
    let digits := (momentPart seconds c).toList.dropWhile fun c => c = '0' || c = ' '
    (if digits.isEmpty then ['0'] else digits) ++ momentText seconds rest
  | '%' :: c :: rest => (momentPart seconds c).toList ++ momentText seconds rest
  | c :: rest => c :: momentText seconds rest
  | [] => []

/-- The number of a part of a date or of a time, between two bounds. -/
def boundedPart? (least most : Nat) (s : String) : Option Nat :=
  (decimal? s).filter fun n => least ≤ n && n ≤ most

def readDay? (s : String) : Option Nat :=
  match s.splitOn "-" with
  | [year, month, day] => do
    let year ← boundedPart? 1970 9999 year
    let month ← boundedPart? 1 12 month
    let day ← boundedPart? 1 (CalendarDate.monthLength year month) day
    return (⟨year, month, day⟩ : CalendarDate).dayOfEpoch
  | _ => none

def readClock? (s : String) : Option Nat :=
  match s.splitOn ":" with
  | [hour, minute] => do
    return 3600 * (← boundedPart? 0 23 hour) + 60 * (← boundedPart? 0 59 minute)
  | [hour, minute, second] => do
    return 3600 * (← boundedPart? 0 23 hour) + 60 * (← boundedPart? 0 59 minute) +
      (← boundedPart? 0 60 second)
  | _ => none

def readMoment? (s : String) : Option Nat :=
  let words := (s.splitOn " ").filter fun w => w ≠ "" && w ≠ "UTC" && w ≠ "Z"
  match words with
  | [] => some (presentMoment / 86400 * 86400)
  | ["now"] => some presentMoment
  | ["today"] => some presentMoment
  | ["yesterday"] => some (presentMoment - 86400)
  | ["tomorrow"] => some (presentMoment + 86400)
  | [word] =>
    match word.toList with
    | '@' :: digits => decimal? (String.ofList digits)
    | _ =>
      match (word.replace "Z" "").splitOn "T" with
      | [day, clock] => do return 86400 * (← readDay? day) + (← readClock? clock)
      | _ => (readDay? word).map (86400 * ·)
  | [day, clock] => do return 86400 * (← readDay? day) + (← readClock? clock)
  | _ => none

/-- Prints a moment, which is the present one unless another one is given. -/
def printMoment (arguments : List String) : Program Unit := do
  let g ← givenTo (flags "uR" ++ settings "dr" ++ [⟨'d', "date", true⟩, ⟨'u', "utc", false⟩,
    ⟨'u', "universal", false⟩, ⟨'r', "reference", true⟩, ⟨'R', "rfc-email", false⟩]) arguments
  let moment ← match g.value? 'd', g.value? 'r' with
    | some text, _ =>
      match readMoment? text with
      | some n => pure n
      | none => Program.refuse ("invalid date " ++ shownPath text)
    | none, some path =>
      match ← Program.find path with
      | .ok _ => pure 0
      | .error fault => Program.refuse (plainPath path ++ ": " ++ faultWording fault)
    | none, none => pure presentMoment
  let format ← match g.operands with
    | [] => pure (if g.has 'R' then "%a, %d %b %Y %T %z" else "%a %b %e %T %Z %Y")
    | [one] =>
      match one.toList with
      | '+' :: format => pure (String.ofList format)
      | _ => Program.refuse ("invalid date " ++ shownPath one)
    | _ :: extra :: _ => Program.refuseUsage 1 ("extra operand " ++ shownPath extra)
  Program.printText (String.ofList (momentText moment format.toList) ++ "\n")

end FlashImage.Shell
