import PanelProbe.Binary64.Decimal
import PanelProbe.Calendar.Instant
import PanelProbe.Json.Printer
import PanelProbe.Ledger

/-!
The summary of a ledger: counts, the rate of passes in percent, and when and how long the run took.
-/

set_option autoImplicit false

namespace PanelProbe.Report

/-- A length of time in seconds and nanoseconds; the latter may exceed a second. -/
structure Duration where
  seconds : Nat
  nanos : Nat
  deriving DecidableEq, Repr

/-- The duration in seconds as a double: the whole seconds and the rest are rounded on their own,
then their sum. A duration too long for a double counts as none. -/
def Duration.toReal (d : Duration) : Binary64 :=
  let whole := d.seconds + d.nanos / Calendar.Instant.billion
  let sum := do
    let whole ← Binary64.ofNat? whole
    let rest ← Binary64.ofRatio false (d.nanos % Calendar.Instant.billion) Calendar.Instant.billion
    whole.addMagnitudes? rest
  sum.getD Binary64.zero

/-- `part` of `whole` in percent: the rounded quotient times one hundred, zero of nothing. -/
def percentage (part whole : Nat) : Binary64 :=
  if whole = 0 then Binary64.zero
  else
    let rate := do
      let part ← Binary64.ofNat? part
      let whole ← Binary64.ofNat? whole
      let quotient ← part.div? whole
      quotient.mul? (← Binary64.ofNat? 100)
    rate.getD Binary64.zero

structure Summary where
  total : Nat
  passed : Nat
  failed : Nat
  rate : Binary64
  duration : Binary64
  timestamp : String
  deriving DecidableEq, Repr

namespace Summary

def ofLedger (l : Ledger) (duration : Duration) (started : Calendar.Instant) : Summary where
  total := l.length
  passed := l.passedCount
  failed := l.length - l.passedCount
  rate := percentage l.passedCount l.length
  duration := duration.toReal
  timestamp := started.text

def render (s : Summary) : String :=
  "Total Tests: " ++ toString s.total ++ "\nPassed: " ++ toString s.passed ++
    "\nFailed: " ++ toString s.failed ++
    "\nSuccess Rate: " ++ String.ofList (s.rate.fixed 1) ++
    "%\nDuration: " ++ String.ofList (s.duration.fixed 2) ++ " seconds"

def toJson (s : Summary) : Json :=
  .object [
    ("total_tests", .int s.total),
    ("passed_tests", .int s.passed),
    ("failed_tests", .int s.failed),
    ("success_rate", .number (.real s.rate)),
    ("duration", .number (.real s.duration)),
    ("timestamp", .string s.timestamp)]

end Summary

end PanelProbe.Report
