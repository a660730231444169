import PanelProbe.Text.Numeral

/-!
Dates of the proleptic Gregorian calendar, with year 0 before year 1: the step to the day before,
the count of days, and their texts.
-/

set_option autoImplicit false

namespace PanelProbe.Calendar

structure Date where
  year : Int
  month : Nat
  day : Nat
  deriving DecidableEq, Repr

def isLeap (year : Int) : Bool :=
  year % 4 == 0 && (year % 100 != 0 || year % 400 == 0)

def daysInMonth (year : Int) (month : Nat) : Nat :=
  if month = 2 then if isLeap year then 29 else 28
  else if month = 4 ∨ month = 6 ∨ month = 9 ∨ month = 11 then 30
  else 31

namespace Date

def yesterday (d : Date) : Date :=
  if 1 < d.day then { d with day := d.day - 1 }
  else if 1 < d.month then ⟨d.year, d.month - 1, daysInMonth d.year (d.month - 1)⟩
  else ⟨d.year - 1, 12, 31⟩

def before (d : Date) : Nat → Date
  | 0 => d
  | n + 1 => (d.yesterday).before n

def earliestYear : Int := -262143

/-- The date `n` days before, unless it precedes every date that is represented. -/
def before? (d : Date) (n : Nat) : Option Date :=
  let earlier := d.before n
  if earlier.year < earliestYear then none else some earlier

def daysBeforeMonth (year : Int) (month : Nat) : Nat :=
  (List.range (month - 1)).foldl (fun days m => days + daysInMonth year (m + 1)) 0

def daysBeforeYear (year : Int) : Int :=
  365 * year + (year + 3) / 4 - (year + 99) / 100 + (year + 399) / 400

def dayNumber (d : Date) : Int :=
  daysBeforeYear d.year + daysBeforeMonth d.year d.month + (d.day : Int) - 1

/-- The month and day of the `n`-th day of a year, counting from zero, among the months from
`month` on. -/
def ofYearDay (year : Int) : Nat → Nat → Nat → Date
  | 0, month, n => ⟨year, month, n + 1⟩
  | later + 1, month, n =>
    if n < daysInMonth year month then ⟨year, month, n + 1⟩
    else ofYearDay year later (month + 1) (n - daysInMonth year month)

/-- The date with a day number: the year is guessed from the mean length of a year, which is
at most one year off. -/
def ofDayNumber (n : Int) : Date :=
  let guess := n * 400 / 146097
  let year :=
    if n < daysBeforeYear guess then guess - 1
    else if daysBeforeYear (guess + 1) ≤ n then guess + 1
    else guess
  ofYearDay year 11 1 (n - daysBeforeYear year).toNat

/-- A year in four digits, with a sign in front when it lies outside 0 to 9999. -/
def yearChars (year : Int) : List Char :=
  if 0 ≤ year ∧ year ≤ 9999 then Text.padded 4 year.toNat
  else (if year < 0 then '-' else '+') :: Text.padded 4 year.natAbs

def chars (separator : List Char) (d : Date) : List Char :=
  yearChars d.year ++ separator ++ Text.padded 2 d.month ++ separator ++ Text.padded 2 d.day

def text (d : Date) : String := String.ofList (d.chars ['-'])

end Date

end PanelProbe.Calendar
