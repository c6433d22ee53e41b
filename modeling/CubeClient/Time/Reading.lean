import CubeClient.Text.Ascii
import CubeClient.Text.Blank
import CubeClient.Time.Calendar

/-!
# Dates in headers

Servers write the expiry of a cookie in one of two formats. In the first, hyphens join the parts of
the date and the time is that of Greenwich, named behind it or not:
`Wed, 09-Jun-2021 10:18:14 GMT`. The other is the format of mail headers: the parts of the date are
separated by blanks, the day of the week and the seconds may be left out, and a zone follows:
`Wed, 9 Jun 2021 12:18 +0200`.

A day of the week that is there has to be that of the date. In the first format blanks may stand
before any number and are needed nowhere. Readers take the front of a text and answer what is
behind it.
-/

namespace CubeClient.HeaderDate

open CubeClient.Text

/-- What a reader of the front of a text answers. -/
abbrev Read (α : Type) : Type := Option (α × List Char)

/-- Everything behind the blanks at the front. -/
def skipBlanks (cs : List Char) : List Char :=
  cs.dropWhile isSpace

/-- Skips at least one blank. -/
def skipSomeBlanks : List Char → Option (List Char)
  | [] => none
  | c :: rest => if isSpace c then some (skipBlanks rest) else none

/-- Reads a character. -/
def readChar (expected : Char) : List Char → Option (List Char)
  | [] => none
  | c :: rest => if c = expected then some rest else none

/-- Whether a character is a decimal digit. -/
def isDigit (c : Char) : Bool :=
  '0' ≤ c && c ≤ '9'

/-- The value of decimal digits. -/
def valueOf (digits : List Char) : Nat :=
  digits.foldl (fun acc c => acc * 10 + (c.toNat - 48)) 0

/-- The largest number that a date may hold before it is looked at. -/
def largest : Nat := Nat.pow 2 63 - 1

/-- Reads a number of a least and a most number of digits; `none` sets no most. -/
def readNumber (least : Nat) (most : Option Nat) (cs : List Char) : Read Nat :=
  let digits := match most with
    | some n => (cs.take n).takeWhile isDigit
    | none => cs.takeWhile isDigit
  if digits.length < least || largest < valueOf digits then none
  else some (valueOf digits, cs.drop digits.length)

/-- Reads one of some names of three letters, in either case, and answers its position. -/
def readName (names : List String) (cs : List Char) : Read Nat :=
  let word := String.ofList ((cs.take 3).map lowerChar)
  (names.findIdx? (· == word)).map fun i => (i, cs.drop 3)

/-- Reads a day of the week, counted from Monday as 0. -/
def readWeekday : List Char → Read Nat :=
  readName ["mon", "tue", "wed", "thu", "fri", "sat", "sun"]

/-- Reads a month, counted from January as 1. -/
def readMonth (cs : List Char) : Read Nat :=
  (readName ["jan", "feb", "mar", "apr", "may", "jun", "jul", "aug", "sep", "oct", "nov", "dec"]
    cs).map fun (i, rest) => (i + 1, rest)

/-- The instant of the parts of a date, if they go together. -/
def assemble (weekday : Option Nat) (date : CivilDate) (time : ClockTime) (ahead : Int) :
    Option Instant :=
  let instant := Instant.ofCivil date time ahead
  if date.isValid && time.isValid && weekday.all (· == date.weekday) && ahead.natAbs < 86400 &&
      instant.isRepresentable then
    some instant
  else none

/-- Reads a year: at most four digits, or any number of digits behind a sign. -/
def readYear (cs : List Char) : Read Int :=
  match skipBlanks cs with
  | '-' :: rest => (readNumber 1 none rest).map fun (n, rest) => (-(n : Int), rest)
  | '+' :: rest => (readNumber 1 none rest).map fun (n, rest) => ((n : Int), rest)
  | rest => (readNumber 1 (some 4) rest).map fun (n, rest) => ((n : Int), rest)

/-- Reads a number of one or two digits behind any blanks. -/
def readPart (cs : List Char) : Read Nat :=
  readNumber 1 (some 2) (skipBlanks cs)

/-- Reads the format with hyphens, without the name of the zone. -/
def readHyphenated (cs : List Char) : Option Instant := do
  let (weekday, cs) ← readWeekday cs
  let cs ← readChar ',' cs
  let (day, cs) ← readPart (skipBlanks cs)
  let cs ← readChar '-' cs
  let (month, cs) ← readMonth cs
  let cs ← readChar '-' cs
  let (year, cs) ← readYear cs
  let (hour, cs) ← readPart (skipBlanks cs)
  let cs ← readChar ':' cs
  let (minute, cs) ← readPart cs
  let cs ← readChar ':' cs
  let (second, cs) ← readPart cs
  if cs.isEmpty then assemble (some weekday) ⟨year, month, day⟩ ⟨hour, minute, second⟩ 0 else none

/-- Reads a year of at least two digits. Two digits are a year from 1950 to 2049, three count from
1900. -/
def readMailYear (cs : List Char) : Read Int :=
  (readNumber 2 none cs).map fun (n, rest) =>
    let year :=
      match cs.length - rest.length with
      | 2 => if n < 50 then n + 2000 else n + 1900
      | 3 => n + 1900
      | _ => n
    ((year : Int), rest)

/-- The zones that have names, with how many hours their clocks are ahead. -/
def namedZones : List (String × Int) :=
  [("gmt", 0), ("ut", 0), ("z", 0), ("edt", -4), ("est", -5), ("cdt", -5), ("cst", -6),
    ("mdt", -6), ("mst", -7), ("pdt", -7), ("pst", -8)]

/-- How many seconds the clocks of a named zone are ahead. A single letter other than `j` says
nothing about the zone and counts as Greenwich. -/
def zoneOfName? (name : List Char) : Option Int :=
  let name := name.map lowerChar
  match namedZones.find? (·.1 == String.ofList name) with
  | some (_, hours) => some (hours * 3600)
  | none =>
    match name with
    | [c] => if c = 'j' then none else some 0
    | _ => none

/-- Reads hours and minutes, in seconds. -/
def readOffset (cs : List Char) : Option (Int × List Char) := do
  let (hours, cs) ← readNumber 2 (some 2) cs
  let (minutes, cs) ← readNumber 2 (some 2) cs
  if minutes < 60 then return (hours * 3600 + minutes * 60, cs) else none

/-- Reads a zone, as a name or as a sign, hours and minutes. -/
def readZone (cs : List Char) : Read Int :=
  match cs with
  | '+' :: rest => readOffset rest
  | '-' :: rest => (readOffset rest).map fun (seconds, rest) => (-seconds, rest)
  | _ =>
    let name := cs.takeWhile Char.isAlpha
    (zoneOfName? name).map fun seconds => (seconds, cs.drop name.length)

/-- Skips the rest of a comment, which may hold comments. -/
def skipComment (depth : Nat) : List Char → Option (List Char)
  | [] => none
  | '\\' :: _ :: rest => skipComment depth rest
  | '(' :: rest => skipComment (depth + 1) rest
  | ')' :: rest =>
    match depth with
    | 0 => some rest
    | depth + 1 => skipComment depth rest
  | _ :: rest => skipComment depth rest

theorem length_lt_of_skipComment {depth : Nat} {cs after : List Char}
    (h : skipComment depth cs = some after) : after.length < cs.length := by
  fun_induction skipComment depth cs with
  | case1 => simp at h
  | case2 depth c rest ih =>
    have := ih h
    simp only [List.length_cons]
    omega
  | case3 depth rest ih =>
    have := ih h
    simp only [List.length_cons]
    omega
  | case4 rest => simp_all
  | case5 rest depth ih =>
    have := ih h
    simp only [List.length_cons]
    omega
  | case6 depth c rest _ _ _ ih =>
    have := ih h
    simp only [List.length_cons]
    omega

/-- Skips comments. -/
def skipComments (cs : List Char) : List Char :=
  match hb : skipBlanks cs with
  | '(' :: rest =>
    match h : skipComment 0 rest with
    | some after =>
      have : after.length < cs.length := by
        have h₁ := length_lt_of_skipComment h
        have h₂ := (List.dropWhile_suffix (l := cs) isSpace).length_le
        simp only [skipBlanks] at hb
        rw [hb, List.length_cons] at h₂
        omega
      skipComments after
    | none => cs
  | _ => cs
termination_by cs.length

/-- Reads the seconds, if there are any. -/
def readSeconds (cs : List Char) : Read Nat :=
  match readChar ':' (skipBlanks cs) with
  | some cs => readNumber 2 (some 2) cs
  | none => some (0, cs)

/-- Reads the day of the week and its comma, if they are there. -/
def readOptionalWeekday (cs : List Char) : Read (Option Nat) :=
  match readWeekday cs with
  | some (weekday, cs) => (readChar ',' cs).map fun cs => (some weekday, cs)
  | none => some (none, cs)

/-- Reads the format of mail headers. -/
def readMail (cs : List Char) : Option Instant := do
  let (weekday, cs) ← readOptionalWeekday (skipBlanks cs)
  let (day, cs) ← readNumber 1 (some 2) (skipBlanks cs)
  let (month, cs) ← readMonth (← skipSomeBlanks cs)
  let (year, cs) ← readMailYear (← skipSomeBlanks cs)
  let (hour, cs) ← readNumber 2 (some 2) (← skipSomeBlanks cs)
  let cs ← readChar ':' (skipBlanks cs)
  let (minute, cs) ← readNumber 2 (some 2) (skipBlanks cs)
  let (second, cs) ← readSeconds cs
  let (ahead, cs) ← readZone (← skipSomeBlanks cs)
  if (skipComments cs).isEmpty then
    assemble weekday ⟨year, month, day⟩ ⟨hour, minute, second⟩ ahead
  else none

/-- Removes every `GMT` at the end; the text is given from its end. -/
def dropZoneName : List Char → List Char
  | 'T' :: 'M' :: 'G' :: rest => dropZoneName rest
  | cs => cs

/-- Reads a date in either format. -/
def read (text : String) : Option Instant :=
  let trimmed := trimList text.toList
  match readHyphenated (trimList (dropZoneName trimmed.reverse).reverse) with
  | some instant => some instant
  | none => readMail trimmed

end CubeClient.HeaderDate
