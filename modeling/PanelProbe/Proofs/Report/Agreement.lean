import PanelProbe.Proofs.Report.Reading
import PanelProbe.Proofs.Run.Operation
import PanelProbe.Proofs.Text.Occurrence
import PanelProbe.Report.Printed

/-!
The views of a ledger: its counts, the entries it calls failures, the printed report, the rows
echoed while it was recorded and the exit code. All of them tell the same entries apart.
-/

set_option autoImplicit false

namespace PanelProbe

private theorem Entry.not_passed_iff {e : Entry} : (!e.passed) = true ↔ e.status = .fail := by
  unfold Entry.passed
  cases e.status <;> decide

private theorem Ledger.failures_eq_filter (l : Ledger) :
    l.failures = l.filter fun e => e.status = .fail := by
  refine List.filter_congr fun e _ => ?_
  rw [Bool.eq_iff_iff, Entry.not_passed_iff, decide_eq_true_eq]

private theorem join_map_ite {α : Type} (row : α → String) (shown : α → Prop) [DecidablePred shown]
    (l : List α) :
    String.join (l.map fun x => if shown x then row x else "") =
      String.join ((l.filter fun x => shown x).map row) := by
  induction l with
  | nil => rfl
  | cons x rest ih =>
    rw [List.map_cons, String.join_cons, ih]
    by_cases visible : shown x
    · rw [if_pos visible, List.filter_cons_of_pos (by simpa using visible), List.map_cons,
        String.join_cons]
    · rw [if_neg visible, List.filter_cons_of_neg (by simpa using visible), String.empty_append]

namespace Report

/-! What a reader sees, with the control sequences that are added where colours are on. -/

def shown (colored : Bool) (codes text : String) : String :=
  if colored then "\x1b[" ++ codes ++ "m" ++ text ++ "\x1b[0m" else text

def tick (colored : Bool) : String := shown colored "32" "✓"

def cross (colored : Bool) : String := shown colored "31" "✗"

/-- A text goes on dimmed where it switches styles off. -/
def dimmedAgain : List Char → List Char
  | '\x1b' :: '[' :: '0' :: 'm' :: rest =>
    '\x1b' :: '[' :: '0' :: 'm' :: '\x1b' :: '[' :: '2' :: 'm' :: dimmedAgain rest
  | c :: rest => c :: dimmedAgain rest
  | [] => []

def dimmed (colored : Bool) (text : String) : String :=
  if colored then shown true "2" (String.ofList (dimmedAgain text.toList)) else text

def failedRow (colored : Bool) (e : Entry) : String :=
  cross colored ++ " " ++ e.name ++ ": " ++ e.details ++ "\n"

def listedRow (colored : Bool) (e : Entry) : String :=
  (match e.status with
    | .pass => tick colored ++ " [PASS] "
    | .fail => cross colored ++ " [FAIL] ") ++ e.name ++ ": " ++ e.details ++ "\n"

/-- The row that echoes an entry; the details of a pass are dimmed. -/
def echoedRow (colored : Bool) (e : Entry) : String :=
  match e.status with
  | .pass => "  " ++ tick colored ++ " " ++ e.name ++ ": " ++ dimmed colored e.details ++ "\n"
  | .fail => "  " ++ cross colored ++ " " ++ e.name ++ ": " ++ e.details ++ "\n"

def titled (colored : Bool) (codes title : String) : String :=
  "\n" ++ shown colored codes title ++ "\n" ++ "----------------------------------------\n"

def doubleLine : String := "============================================================\n"

def counts (s : Summary) : String :=
  "Total Tests: " ++ toString s.total ++ "\nPassed: " ++ toString s.passed ++ "\nFailed: " ++
    toString s.failed ++ "\nSuccess Rate: " ++ String.ofList (s.rate.fixed 1) ++
    "%\nDuration: " ++ String.ofList (s.duration.fixed 2) ++ " seconds"

def opening (colored : Bool) (s : Summary) : String :=
  "\n" ++ doubleLine ++ shown colored "1" "API TEST SUMMARY" ++ "\n" ++ doubleLine ++ counts s ++
    "\n" ++ doubleLine

/-! The program's own rows and headings. -/

private theorem styled_of_plain (colored : Bool) {style : Console.Style} {codes text : String}
    (start : style.start = "\x1b[" ++ codes ++ "m") (plain : '\x1b' ∉ text.toList) :
    Console.styled colored style text = shown colored codes text := by
  cases colored with
  | false => rfl
  | true =>
    have same := Text.replace_append plain ['[', '0', 'm'] (Console.reset ++ style.start).toList []
    rw [List.append_nil] at same
    have whole : Text.replace Console.reset.toList (Console.reset ++ style.start).toList
        text.toList = text.toList := same.trans (List.append_nil _)
    rw [Console.styled, if_pos rfl, whole, String.ofList_toList, start]
    rfl

private theorem mark_true (colored : Bool) : Console.mark colored true = tick colored :=
  styled_of_plain colored (by decide) (by decide)

private theorem mark_false (colored : Bool) : Console.mark colored false = cross colored :=
  styled_of_plain colored (by decide) (by decide)

private theorem heading_of_plain (colored : Bool) {style : Console.Style} {codes title : String}
    (start : style.start = "\x1b[" ++ codes ++ "m") (plain : '\x1b' ∉ title.toList) :
    heading colored style title = titled colored codes title := by
  have line : rule '-' 40 = "----------------------------------------\n" := by decide +kernel
  rw [heading, styled_of_plain colored start plain, line]
  rfl

private theorem printed_opening (colored : Bool) (s : Summary) :
    "\n" ++ rule '=' 60 ++ Console.styled colored .bold "API TEST SUMMARY" ++ "\n" ++
      rule '=' 60 ++ s.render ++ "\n" ++ rule '=' 60 = opening colored s := by
  have line : rule '=' 60 = doubleLine := by decide +kernel
  have title : Console.styled colored .bold "API TEST SUMMARY" =
      shown colored "1" "API TEST SUMMARY" := styled_of_plain colored (by decide) (by decide)
  rw [line, title]
  rfl

private theorem replace_reset (text : List Char) :
    Text.replace Console.reset.toList (Console.reset ++ Console.Style.dimmed.start).toList text =
      dimmedAgain text := by
  fun_induction dimmedAgain text with
  | case1 rest ih =>
    rw [← ih]
    exact Text.replace_pattern_append '\x1b' ['[', '0', 'm'] _ rest
  | case2 c rest other ih =>
    have here : Console.reset.toList.isPrefixOf (c :: rest) = false := by
      rw [← Bool.not_eq_true, List.isPrefixOf_iff_prefix]
      rintro ⟨behind, whole⟩
      obtain ⟨first, more⟩ := List.cons.inj whole
      exact other behind first.symm more.symm
    unfold Text.replace at ih ⊢
    rw [Text.replaceFrom, here, ih]
    rfl
  | case3 => rfl

private theorem styled_dimmed (colored : Bool) (text : String) :
    Console.styled colored .dimmed text = dimmed colored text := by
  cases colored with
  | false => rfl
  | true =>
    rw [dimmed, ← replace_reset]
    rfl

private theorem failureRow_eq (colored : Bool) (e : Entry) :
    failureRow colored e = failedRow colored e := by
  simp only [failureRow, failedRow, mark_false, Entry.summary, String.append_assoc]

private theorem detailRow_eq (colored : Bool) (e : Entry) :
    detailRow colored e = listedRow colored e := by
  have front : Console.mark colored e.passed ++ " [" ++ e.status.name ++ "] " =
      match e.status with
      | .pass => tick colored ++ " [PASS] "
      | .fail => cross colored ++ " [FAIL] " := by
    unfold Entry.passed
    cases e.status with
    | pass =>
      show Console.mark colored true ++ " [" ++ "PASS" ++ "] " = tick colored ++ " [PASS] "
      rw [mark_true, String.append_assoc, String.append_assoc]
      rfl
    | fail =>
      show Console.mark colored false ++ " [" ++ "FAIL" ++ "] " = cross colored ++ " [FAIL] "
      rw [mark_false, String.append_assoc, String.append_assoc]
      rfl
  rw [detailRow, front, listedRow, Entry.summary]
  simp only [String.append_assoc]

private theorem echo_eq (colored verbose : Bool) (e : Entry) :
    Console.echo colored verbose e =
      if verbose = true ∨ e.status = .fail then echoedRow colored e else "" := by
  unfold Console.echo Entry.passed echoedRow Entry.summary
  rw [mark_true, mark_false, styled_dimmed]
  cases e.status <;> cases verbose <;> simp [String.append_assoc]

/-- The states in which a run, or any sequence of operations, leaves ledger and console. -/
def Recorded (setting : Run.Setting) (t : Run.State) : Prop :=
  (∃ ops, t = Run.performAll setting ops {}) ∨ ∃ list, t = (Run.run setting list).state

theorem Recorded.console {setting : Run.Setting} {t : Run.State} (h : Recorded setting t) :
    t.console = String.join ((t.ledger.filter fun e =>
      setting.verbose = true ∨ e.status = .fail).map (echoedRow setting.colored)) := by
  have echoed : Run.Echoed setting t := by
    rcases h with ⟨ops, rfl⟩ | ⟨list, rfl⟩
    · have begun : Run.Echoed setting {} := rfl
      exact begun.performAll ops
    · exact Run.echoed_run setting list
  have rows : t.ledger.map (fun e => Console.echo setting.colored setting.verbose
      (e.row.entry "")) = t.ledger.map fun e =>
        if setting.verbose = true ∨ e.status = .fail then echoedRow setting.colored e else "" :=
    List.map_congr_left fun e _ => echo_eq setting.colored setting.verbose (e.row.entry "")
  have printed : t.console = Run.echoes setting (t.ledger.map Entry.row) := echoed
  rw [printed, Run.echoes, List.map_map, ← join_map_ite, ← rows]
  rfl

/-- Whatever shows a ledger shows the same failures: the counts add up, the report lists just the
failures and, when verbose, every entry; the console echoed the same rows while they were recorded;
and the exit code tells whether there are failures. -/
theorem views_agree (l : Ledger) (duration : Duration) (started : Calendar.Instant)
    (colored verbose : Bool) :
    let s := Summary.ofLedger l duration started
    let failed := l.filter fun e => e.status = .fail
    s.total = l.length ∧ s.passed + s.failed = s.total ∧
    l.failures = failed ∧ s.failed = l.failures.length ∧
    printed colored verbose s l = opening colored s ++
      (if 0 < s.failed then titled colored "1;31" "FAILED TESTS:" ++
        String.join (failed.map (failedRow colored)) else "") ++
      (if verbose then titled colored "1" "DETAILED RESULTS:" ++
        String.join (l.map (listedRow colored)) else "") ∧
    (∀ setting t, Recorded setting t → t.ledger = l → t.console =
      String.join ((if setting.verbose then l else failed).map (echoedRow setting.colored))) ∧
    exitCode true s = if ∃ e ∈ l, e.status = .fail then 1 else 0 := by
  intro s failed
  have failures : l.failures = failed := l.failures_eq_filter
  have passed_le : l.passedCount ≤ l.length := List.countP_le_length
  have count : s.failed = l.failures.length := by
    have counted : s.failed = l.countP (·.status == .fail) := failed_eq_countP l
    rw [counted, failures, List.countP_eq_length_filter]
    rfl
  refine ⟨rfl, Nat.add_sub_cancel' passed_le, failures, count, ?_, ?_, ?_⟩
  · have first : l.failures.map (failureRow colored) = failed.map (failedRow colored) := by
      rw [failures]
      exact List.map_congr_left fun e _ => failureRow_eq colored e
    have second : l.map (detailRow colored) = l.map (listedRow colored) :=
      List.map_congr_left fun e _ => detailRow_eq colored e
    have titles : heading colored .redBold "FAILED TESTS:" = titled colored "1;31" "FAILED TESTS:" ∧
        heading colored .bold "DETAILED RESULTS:" = titled colored "1" "DETAILED RESULTS:" :=
      ⟨heading_of_plain colored (by decide) (by decide),
        heading_of_plain colored (by decide) (by decide)⟩
    rw [printed, printed_opening, failureSection, detailSection, first, second, titles.1, titles.2]
  · rintro setting t recorded rfl
    rw [recorded.console]
    cases setting.verbose with
    | false => simp only [Bool.false_eq_true, false_or, if_false]; rfl
    | true => simp
  · have some_failed : 0 < s.failed ↔ ∃ e ∈ l, e.status = .fail := by
      rw [count, failures, List.length_pos_iff_exists_mem]
      simp only [failed, List.mem_filter, decide_eq_true_eq]
    rw [exitCode, Bool.true_and]
    simp only [decide_eq_true_eq, some_failed]

end Report

end PanelProbe
