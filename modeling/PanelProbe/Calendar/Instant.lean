import PanelProbe.Calendar.Date

/-!
Instants of universal time, with leap seconds, and their texts.
-/

set_option autoImplicit false

namespace PanelProbe.Calendar

/-- Seconds from the start of 1970 and nanoseconds within the second; from a billion on they lie
in the leap second that follows. -/
structure Instant where
  seconds : Int
  nanos : Nat
  deriving DecidableEq, Repr

namespace Instant

def epochDay : Int := 719528

def date (t : Instant) : Date :=
  Date.ofDayNumber (t.seconds / 86400 + epochDay)

def secondOfDay (t : Instant) : Nat :=
  (t.seconds % 86400).toNat

def billion : Nat := 1000000000

/-- Hour, minute and second with `separator` between them; a leap second is second 60. -/
def clock (separator : List Char) (t : Instant) : List Char :=
  let s := t.secondOfDay
  Text.padded 2 (s / 3600) ++ separator ++ Text.padded 2 (s / 60 % 60) ++ separator ++
    Text.padded 2 (s % 60 + t.nanos / billion)

/-- The fraction of the second in groups of three digits, as many as are needed. -/
def fraction (t : Instant) : List Char :=
  let n := t.nanos % billion
  if n = 0 then []
  else if n % 1000000 = 0 then '.' :: Text.padded 3 (n / 1000000)
  else if n % 1000 = 0 then '.' :: Text.padded 6 (n / 1000)
  else '.' :: Text.padded 9 n

def text (t : Instant) : String :=
  String.ofList (t.date.chars ['-'] ++ 'T' :: t.clock [':'] ++ t.fraction ++ ['Z'])

/-- Date and time without separators, to the second. -/
def compactText (t : Instant) : String :=
  String.ofList (t.date.chars [] ++ '_' :: t.clock [])

end Instant

end PanelProbe.Calendar
