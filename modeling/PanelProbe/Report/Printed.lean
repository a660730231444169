import PanelProbe.Report.Summary

/-!
The report printed at the end of a run: the summary between rules, the failed steps if there are
any, and every step when verbose.
-/

set_option autoImplicit false

namespace PanelProbe.Report

def rule (c : Char) (count : Nat) : String :=
  String.ofList (List.replicate count c) ++ "\n"

def failureRow (colored : Bool) (e : Entry) : String :=
  Console.mark colored false ++ " " ++ e.summary ++ "\n"

def detailRow (colored : Bool) (e : Entry) : String :=
  Console.mark colored e.passed ++ " [" ++ e.status.name ++ "] " ++ e.summary ++ "\n"

def heading (colored : Bool) (style : Console.Style) (title : String) : String :=
  "\n" ++ Console.styled colored style title ++ "\n" ++ rule '-' 40

def failureSection (colored : Bool) (s : Summary) (l : Ledger) : String :=
  if 0 < s.failed then
    heading colored .redBold "FAILED TESTS:" ++ String.join (l.failures.map (failureRow colored))
  else ""

def detailSection (colored verbose : Bool) (l : Ledger) : String :=
  if verbose then
    heading colored .bold "DETAILED RESULTS:" ++ String.join (l.map (detailRow colored))
  else ""

def printed (colored verbose : Bool) (s : Summary) (l : Ledger) : String :=
  "\n" ++ rule '=' 60 ++ Console.styled colored .bold "API TEST SUMMARY" ++ "\n" ++
    rule '=' 60 ++ s.render ++ "\n" ++ rule '=' 60 ++
    failureSection colored s l ++ detailSection colored verbose l

def exitCode (failOnError : Bool) (s : Summary) : Nat :=
  if failOnError && decide (0 < s.failed) then 1 else 0

end PanelProbe.Report
