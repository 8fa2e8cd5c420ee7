import Roster.Text.Plain

/-!
Days of the proleptic calendar, from the first day of the year -262143 to the
last of the year 262142, and the moments of a day.
-/

namespace Roster.Calendar

def isLeapYear (year : Int) : Bool :=
  year % 4 == 0 && (year % 100 != 0 || year % 400 == 0)

def daysInMonth (year : Int) (month : Nat) : Nat :=
  if month = 2 then (if isLeapYear year then 29 else 28)
  else if month = 4 || month = 6 || month = 9 || month = 11 then 30
  else 31

def firstYear : Int := -262143
def lastYear : Int := 262142

def IsDay (year : Int) (month day : Nat) : Prop :=
  firstYear ≤ year ∧ year ≤ lastYear ∧ 1 ≤ month ∧ month ≤ 12 ∧
    1 ≤ day ∧ day ≤ daysInMonth year month

instance (year : Int) (month day : Nat) : Decidable (IsDay year month day) :=
  inferInstanceAs (Decidable (_ ∧ _))

structure Date where
  year : Int
  month : Nat
  day : Nat
  isDay : IsDay year month day
deriving DecidableEq, Repr

namespace Date

def of? (year : Int) (month day : Nat) : Option Date :=
  if h : IsDay year month day then some ⟨year, month, day, h⟩ else none

def next? (date : Date) : Option Date :=
  if date.day < daysInMonth date.year date.month then of? date.year date.month (date.day + 1)
  else if date.month < 12 then of? date.year (date.month + 1) 1
  else of? (date.year + 1) 1 1

def previous? (date : Date) : Option Date :=
  if 1 < date.day then of? date.year date.month (date.day - 1)
  else if 1 < date.month then
    of? date.year (date.month - 1) (daysInMonth date.year (date.month - 1))
  else of? (date.year - 1) 12 31

end Date

/-!
Moments of universal time, to the nanosecond. Any minute may end in a leap
second, which is kept. `Moment.read?` takes a moment with any offset and some
freedom in blanks and digits, `Moment.text` writes one form with offset zero.
-/

open Text (digits padded skipBlanks)

structure Moment where
  date : Date
  hour : Nat
  minute : Nat
  second : Nat
  nano : Nat
  inDay : hour < 24 ∧ minute < 60 ∧ second ≤ 60 ∧ nano < 1000000000
deriving DecidableEq, Repr

namespace Moment

def of? (date : Date) (hour minute second nano : Nat) : Option Moment :=
  if h : hour < 24 ∧ minute < 60 ∧ second ≤ 60 ∧ nano < 1000000000 then
    some ⟨date, hour, minute, second, nano, h⟩
  else none

instance : Inhabited Moment := ⟨⟨⟨1970, 1, 1, by decide⟩, 0, 0, 0, 0, by decide⟩⟩

/-! ### Reading -/

def digitsValue (run : List Char) : Nat := Nat.ofDigitChars 10 run 0

def number? (width : Nat) (text : List Char) : Option (Nat × List Char) :=
  let run := (text.take width).takeWhile Char.isDigit
  if run.isEmpty then none else some (digitsValue run, text.drop run.length)

def field? (width : Nat) (text : List Char) : Option (Nat × List Char) :=
  number? width (skipBlanks text)

def year? (text : List Char) : Option (Int × List Char) :=
  match skipBlanks text with
  | '-' :: rest => (number? rest.length rest).map fun (n, after) => (-(n : Int), after)
  | '+' :: rest => (number? rest.length rest).map fun (n, after) => ((n : Int), after)
  | rest => (number? 4 rest).map fun (n, after) => ((n : Int), after)

def separator? (mark : Char) (text : List Char) : Option (List Char) :=
  match skipBlanks text with
  | [] => none
  | first :: rest => if first = mark then some rest else none

def dayEnd? : List Char → Option (List Char)
  | [] => none
  | first :: rest => if first = 'T' || first = 't' || first = ' ' then some rest else none

/-- A fraction counts to nine digits, further ones are dropped. -/
def fraction? (text : List Char) : Option (Nat × List Char) :=
  match text with
  | '.' :: rest =>
    let run := rest.takeWhile Char.isDigit
    let counted := run.take 9
    if run.isEmpty then none
    else some (digitsValue counted * Nat.pow 10 (9 - counted.length), rest.drop run.length)
  | rest => some (0, rest)

def twoDigits? : List Char → Option (Nat × List Char)
  | a :: b :: rest => if a.isDigit && b.isDigit then some (digitsValue [a, b], rest) else none
  | _ => none

def startsUtc (text : List Char) : Bool :=
  (text.take 3).map Char.toLower == ['u', 't', 'c']

/-- An offset in minutes: `Z`, `UTC`, or a sign, hours and minutes, with colons
or blanks between the two. -/
def offset? (text : List Char) : Option (Int × List Char) :=
  if startsUtc text then some (0, text.drop 3)
  else match text with
    | [] => none
    | mark :: rest =>
      if mark = 'Z' || mark = 'z' then some (0, rest)
      else if mark = '+' || mark = '-' || mark = '−' then do
        let (hours, rest) ← twoDigits? rest
        let (minutes, rest) ←
          twoDigits? (rest.dropWhile fun c => c == ':' || Text.isBlank c)
        if hours < 24 ∧ minutes < 60 then
          let total : Int := hours * 60 + minutes
          return (if mark = '+' then total else -total, rest)
        else none
      else none

def ofLocal? (date : Date) (hour minute second nano : Nat) (offset : Int) : Option Moment := do
  let _ ← of? date hour minute second nano
  let minutes : Int := hour * 60 + minute - offset
  let date ←
    if minutes < 0 then date.previous?
    else if 1440 ≤ minutes then date.next?
    else some date
  let minutes := (minutes % 1440).toNat
  of? date (minutes / 60) (minutes % 60) second nano

def readChars? (text : List Char) : Option Moment := do
  let (year, text) ← year? text
  let text ← separator? '-' text
  let (month, text) ← field? 2 text
  let text ← separator? '-' text
  let (day, text) ← field? 2 text
  let text ← dayEnd? text
  let (hour, text) ← field? 2 text
  let text ← separator? ':' text
  let (minute, text) ← field? 2 text
  let text ← separator? ':' text
  let (second, text) ← field? 2 text
  let (nano, text) ← fraction? text
  let (offset, text) ← offset? (skipBlanks text)
  if !(skipBlanks text).isEmpty then none
  else do
    let date ← Date.of? year month day
    ofLocal? date hour minute second nano offset

def read? (text : String) : Option Moment := readChars? text.toList

/-! ### Writing -/

def yearChars (year : Int) : List Char :=
  if 0 ≤ year ∧ year ≤ 9999 then padded 4 year.toNat
  else (if year < 0 then '-' else '+') :: padded 4 year.natAbs

/-- The fewest of 0, 3, 6 or 9 digits that lose nothing. -/
def fractionChars (nano : Nat) : List Char :=
  if nano = 0 then []
  else if nano % 1000000 = 0 then '.' :: padded 3 (nano / 1000000)
  else if nano % 1000 = 0 then '.' :: padded 6 (nano / 1000)
  else '.' :: padded 9 nano

def chars (moment : Moment) : List Char :=
  yearChars moment.date.year ++ '-' :: padded 2 moment.date.month ++ '-' ::
    padded 2 moment.date.day ++ 'T' :: padded 2 moment.hour ++ ':' :: padded 2 moment.minute ++
    ':' :: padded 2 moment.second ++ fractionChars moment.nano ++ ['Z']

def text (moment : Moment) : String := String.ofList moment.chars

end Moment
end Roster.Calendar
