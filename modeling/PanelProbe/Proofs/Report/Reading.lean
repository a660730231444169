import PanelProbe.Proofs.Json.Address
import PanelProbe.Proofs.Json.Reading
import PanelProbe.Proofs.Report.Saving

/-!
Reading of result files: what is saved for a ledger is one document, and it tells the ledger's
entries and counts.
-/

set_option autoImplicit false

namespace PanelProbe.Report

open Binary64 Storage

/-! The numbers of a summary are in range. -/

private theorem under_zero (k : Nat) : Under k Binary64.zero :=
  ⟨by decide, by unfold Binary64.zero leastExponent; dsimp only; omega⟩

private theorem under_getD_zero {k : Nat} {result : Option Binary64}
    (h : ∀ x, result = some x → Under k x) : Under k (result.getD Binary64.zero) := by
  cases result with
  | none => exact under_zero k
  | some x => exact h x rfl

private theorem under_percentage {part : Nat} (whole : Nat) (small : part < 2 ^ 64) :
    Under 134 (percentage part whole) := by
  unfold percentage
  split
  · exact under_zero 134
  · rename_i pos
    refine under_getD_zero fun rate found => ?_
    simp only [Option.bind_eq_bind, Option.bind_eq_some_iff] at found
    obtain ⟨x, numerator, y, denominator, quotient, divided, hundred, factor, rated⟩ := found
    have first : Under 66 x := under_of_ofNat? small numerator
    have second := denominator_le_of_ofNat? (Nat.pos_of_ne_zero pos) denominator
    have third : Under 121 quotient := under_of_div? first second divided
    have fourth : Under 9 hundred := under_of_ofNat? (k := 7) (by decide) factor
    exact (under_of_mul? third fourth rated).mono (by decide)

private theorem under_toReal {duration : Duration}
    (short : duration.seconds + duration.nanos / Calendar.Instant.billion < 2 ^ 64) :
    Under 69 duration.toReal := by
  unfold Duration.toReal
  refine under_getD_zero fun sum found => ?_
  simp only [Option.bind_eq_bind, Option.bind_eq_some_iff] at found
  obtain ⟨x, whole, y, rest, added⟩ := found
  have billion : 0 < Calendar.Instant.billion := by decide
  have first : Under 66 x := under_of_ofNat? short whole
  have second : Under 2 y := by
    refine under_of_ofRatio (k := 0) billion ?_ rest
    rw [Nat.pow_zero, Nat.one_mul]
    exact Nat.mod_lt _ billion
  exact under_of_addMagnitudes? first second added

/-! The document. -/

variable {l : Ledger} {duration : Duration}

private theorem legible_entryJson (e : Entry) : (entryJson e).Legible := by
  simp [entryJson, Json.legible_object_iff, Json.legible_string]

private theorem legible_natural {n : Nat} (small : n < Text.wordBound) : (Json.int n).Legible := by
  rw [Json.int, Json.legible_number_iff, Number.ofChars?_natural small]
  rfl

private theorem legible_real {k : Nat} {x : Binary64} (h : Under k x) (range : k ≤ 134) :
    (Json.number (.real x)).Legible := by
  obtain ⟨y, read⟩ := Number.ofChars?_real h range
  rw [Json.legible_number_iff, read]
  rfl

private theorem legible_document {begun : Calendar.Instant} (counted : l.length < Text.wordBound)
    (timed : duration.seconds + duration.nanos / Calendar.Instant.billion < Text.wordBound) :
    (document (.ofLedger l duration begun) l).Legible := by
  have passed : l.passedCount < Text.wordBound := List.countP_le_length.trans_lt counted
  have rate := legible_real (under_percentage l.length passed) le_rfl
  have time := legible_real (under_toReal timed) (by decide)
  have entries : ∀ v ∈ l.map entryJson, v.Legible := by
    intro v member
    obtain ⟨e, -, rfl⟩ := List.mem_map.1 member
    exact legible_entryJson e
  simp only [document, Summary.toJson, Summary.ofLedger, Json.legible_object_iff,
    Json.legible_array_iff, List.forall_mem_cons]
  refine ⟨⟨legible_natural counted, legible_natural passed, legible_natural (by omega), rate, time,
    Json.legible_string _, ?_⟩, entries, ?_⟩ <;> rintro _ ⟨⟩

private theorem depth_document (s : Summary) (l : Ledger) :
    (document s l).depth ≤ Json.Build.depthLimit := by
  have entries : Json.itemsDepth (l.map entryJson) ≤ 1 := by
    induction l with
    | nil => decide
    | cons e rest ih =>
      rw [List.map_cons, Json.itemsDepth]
      exact max_le (Nat.le_refl 1) ih
  have summary : s.toJson.depth = 1 := rfl
  simp only [document, Json.depth, Json.membersDepth, summary, Json.Build.depthLimit]
  omega

private theorem reread_natural {n : Nat} (small : n < Text.wordBound) :
    Number.reread (.integer n) = .integer n := by
  rw [Number.reread, Number.ofChars?_natural small]
  rfl

theorem failed_eq_countP (l : Ledger) :
    l.length - l.passedCount = l.countP (·.status == .fail) := by
  have others : l.countP (·.status == .fail) = l.countP fun e => !e.passed := by
    refine List.countP_congr fun e _ => ?_
    unfold Entry.passed
    cases e.status <;> decide
  have whole := List.length_eq_countP_add_countP Entry.passed (l := l)
  simp only [Bool.not_eq_true, Bool.decide_eq_false] at whole
  rw [Ledger.passedCount, others, whole, Nat.add_sub_cancel_left]

structure IsEntry (v : Json) (e : Entry) : Prop where
  name : v.at? "test" = some (.string e.name)
  status : v.at? "status" = some (.string (match e.status with | .pass => "PASS" | .fail => "FAIL"))
  details : v.at? "details" = some (.string e.details)

structure IsLedger (v : Json) (l : Ledger) : Prop where
  entries : ∃ items, v.at? "results" = some (.array items) ∧ List.Forall₂ IsEntry items l
  total : v.at? "summary.total_tests" = some (.int l.length)
  passed : v.at? "summary.passed_tests" = some (.int (l.countP (·.status == .pass)))
  failed : v.at? "summary.failed_tests" = some (.int (l.countP (·.status == .fail)))

private theorem isEntry_reread (e : Entry) : IsEntry (entryJson e).reread e where
  name := (Json.at?_key rfl _).trans
    (Json.Members.lookup_ofList_append [] "test" _ (by simp [Json.readMembersAs]))
  status := (Json.at?_key rfl _).trans (Json.Members.lookup_ofList_append
    [("test", .string e.name)] "status" _ (by simp [Json.readMembersAs]))
  details := (Json.at?_key rfl _).trans (Json.Members.lookup_ofList_append
    [("test", .string e.name), ("status", .string e.status.name)] "details" _
    (by simp [Json.readMembersAs]))

def sections (s : Summary) (l : Ledger) : Json.Members :=
  Json.Members.ofList
    [("summary", s.toJson.reread),
      ("results", .array (Json.readItemsAs Number.reread (l.map entryJson)))]

def figures (s : Summary) : Json.Members :=
  Json.Members.ofList [
    ("total_tests", .number (Number.reread (.integer s.total))),
    ("passed_tests", .number (Number.reread (.integer s.passed))),
    ("failed_tests", .number (Number.reread (.integer s.failed))),
    ("success_rate", .number (Number.reread (.real s.rate))),
    ("duration", .number (Number.reread (.real s.duration))),
    ("timestamp", .string s.timestamp)]

private theorem at?_summary (s : Summary) (l : Ledger) {address : String} (key : String)
    (parts : Json.segments address = ["summary".toList, key.toList]) :
    (Json.object (sections s l)).at? address = (figures s).lookup key :=
  Json.at?_keys parts (Json.Members.lookup_ofList_append [] "summary" _ (by simp))

private theorem isLedger_sections (duration : Duration) (begun : Calendar.Instant)
    (counted : l.length < Text.wordBound) :
    IsLedger (.object (sections (.ofLedger l duration begun) l)) l where
  entries := by
    refine ⟨Json.readItemsAs Number.reread (l.map entryJson), (Json.at?_key rfl _).trans
      (Json.Members.lookup_ofList_append [("summary", _)] "results" _ (by simp)), ?_⟩
    rw [Json.readItemsAs_eq_map, List.map_map]
    exact List.forall₂_map_left_iff.2 (List.forall₂_same.2 fun e _ => isEntry_reread e)
  total := by
    rw [at?_summary _ _ "total_tests" rfl, Json.int, ← reread_natural counted]
    exact Json.Members.lookup_ofList_append [] "total_tests" _ (by simp)
  passed := by
    have small : l.passedCount < Text.wordBound := List.countP_le_length.trans_lt counted
    have count : l.countP (·.status == .pass) = l.passedCount := rfl
    rw [at?_summary _ _ "passed_tests" rfl, Json.int, count, ← reread_natural small]
    exact Json.Members.lookup_ofList_append [("total_tests", _)] "passed_tests" _ (by simp)
  failed := by
    have small : l.length - l.passedCount < Text.wordBound := (Nat.sub_le _ _).trans_lt counted
    rw [at?_summary _ _ "failed_tests" rfl, Json.int, ← failed_eq_countP,
      ← reread_natural small]
    exact Json.Members.lookup_ofList_append [("total_tests", _), ("passed_tests", _)]
      "failed_tests" _ (by simp)

/-- A file that is saved for a ledger and its summary holds one document, and the document tells the
ledger: its entries in order, with names, states and details, and its counts. Entries are counted by
a word, and so are the seconds of a run. -/
theorem saved_results_read_back (cwd : List String) (directory : String) (tree after : Tree)
    (started begun : Calendar.Instant) (duration : Duration) (l : Ledger) (path : String)
    (counted : l.length < Text.wordBound)
    (timed : duration.seconds + duration.nanos / Calendar.Instant.billion < Text.wordBound)
    (saved : persist tree cwd directory started (.ofLedger l duration begun) l =
      (after, .ok path)) :
    ∃ text members, after.readText cwd path = .ok text ∧
      Json.parse? text = some (.object members) ∧ IsLedger (.object members) l := by
  let r : Results := ⟨started, .ofLedger l duration begun, l⟩
  have kept : r.save cwd directory tree = (after, .ok path) := saved
  have read : Json.parse? r.text = some (.object (sections (.ofLedger l duration begun) l)) :=
    Json.parse?_pretty (legible_document counted timed) (depth_document _ l)
  obtain ⟨place, k, ready, saves⟩ | ⟨failure, ready, fails⟩ := saves_or_fails cwd directory tree r
  · have found := (saves.found (Tree.Keeps.refl _)).2
    have same : path = join directory (numbered started k) := by
      have given := saves.saved
      rw [kept] at given
      exact Except.ok.inj (congrArg Prod.snd given)
    rw [kept, ← same] at found
    exact ⟨r.text, _, found, read, isLedger_sections duration begun counted⟩
  · have ended := fails.ended
    rw [kept] at ended
    cases congrArg Prod.snd ended

def awkward : Ledger :=
  [⟨"Get \"User\"", .pass, "C:\\new\u0000\u001f\x7f", "t"⟩,
    ⟨"", .fail, "\x7b\n\t\x7d \u2028 😀", ""⟩]

theorem awkward_results_read_back :
    let saved := persist [] [] "out" ⟨0, 0⟩ (.ofLedger awkward ⟨1, 500000000⟩ ⟨0, 0⟩) awkward
    saved.2 = .ok "out/api_test_results_19700101_000000.json" ∧
      ∃ text members,
        saved.1.readText [] "out/api_test_results_19700101_000000.json" = .ok text ∧
          Json.parse? text = some (.object members) ∧ IsLedger (.object members) awkward := by
  intro saved
  have path : saved.2 = .ok "out/api_test_results_19700101_000000.json" := by decide +kernel
  exact ⟨path, saved_results_read_back [] "out" [] saved.1 ⟨0, 0⟩ ⟨0, 0⟩ ⟨1, 500000000⟩ awkward _
    (by decide) (by decide) (Prod.ext rfl path)⟩

end PanelProbe.Report
